import ShaderPreview.Proofs.Preview.Counters
import ShaderPreview.Proofs.Preview.ShaderTime
import ShaderPreview.Proofs.Telemetry.History

/-!
# The samples of a run

From a load that succeeded on, the ticks of a run and the answers of the timer determine what the
telemetry holds: the times from each tick to the next one, and the device times that are in range.
The device time that a report shows is the newest one held.

`Measured` relates a session to the ticks and entries since the load.  Whatever else is asked of the
session leaves it alone, and a tick adds one instant and at most one device time (`measured_tick`).
-/

namespace ShaderPreview

variable {β : Type}

/-! ## The samples to be held -/

/-- The device time that an entry makes known, in milliseconds, if it is above zero and below a
second. -/
def LogEntry.gpuTime? : LogEntry β → Option Double
  | called _ (.pollTimer (.ready ms) _) =>
    if 0.0 < ms ∧ ms < 1000.0 then some (.ofFloat ms) else none
  | _ => none

/-- The device times in range that the entries make known, in their order. -/
def gpuTimes (entries : List (LogEntry β)) : List Double := entries.filterMap LogEntry.gpuTime?

/-- The times from each of the instants to the next one, in milliseconds; zero where time ran
backwards. -/
def frameTimes : List Nat → List Double
  | earlier :: later :: instants =>
    .ofFloat (Span.mk (later - earlier)).milliseconds :: frameTimes (later :: instants)
  | _ => []

theorem frameTimes_concat (instants : List Nat) (now : Nat) :
    frameTimes (instants ++ [now]) = frameTimes instants ++ instants.getLast?.toList.map
      fun earlier => .ofFloat (Span.mk (now - earlier)).milliseconds := by
  fun_induction frameTimes instants with
  | case1 earlier later instants ih =>
    simp only [List.cons_append, frameTimes] at ih ⊢
    rw [ih, List.getLast?_cons_cons]
  | case2 instants hshort =>
    rcases instants with _ | ⟨earlier, _ | ⟨later, instants⟩⟩
    · rfl
    · rfl
    · exact absurd rfl (hshort _ _ _)

theorem gpuTimes_append (es fs : List (LogEntry β)) :
    gpuTimes (es ++ fs) = gpuTimes es ++ gpuTimes fs := List.filterMap_append

theorem gpuTimes_of_isQuiet {es : List (LogEntry β)} (hes : ∀ e ∈ es, e.isQuiet) :
    gpuTimes es = [] := by
  refine List.filterMap_eq_nil_iff.2 fun e he => ?_
  have hq := hes e he
  rcases e with n | error | ⟨n, call⟩
  · rfl
  · rfl
  · cases call with
    | pollTimer => cases hq
    | _ => rfl

theorem LogEntry.gpuTime?_pollTimer (n : Nat) (answer : TimerPoll) (behind : β) :
    gpuTime? (.called n (.pollTimer answer behind)) =
      (Session.keptTime? (some answer)).map Double.ofFloat := by
  cases answer with
  | idle => rfl
  | pending => rfl
  | ready ms =>
    simp only [gpuTime?, Session.keptTime?, Telemetry.acceptsGpu_iff]
    split <;> rfl

/-- A tick makes known what its answer of the timer does. -/
theorem TickCalls.gpuTimes_drawing (c : TickCalls β) (n : Nat) :
    gpuTimes (c.drawing.map (.called n)) =
      (Session.keptTime? (c.poll.map Prod.fst)).toList.map Double.ofFloat := by
  unfold gpuTimes drawing
  rcases c.poll with _ | ⟨answer, behind⟩
  · rcases c.size with _ | size <;> rfl
  · have hpolled : [LogEntry.called n (.pollTimer answer behind)].filterMap LogEntry.gpuTime? =
        (Session.keptTime? (some answer)).toList.map Double.ofFloat := by
      rw [List.filterMap_cons, LogEntry.gpuTime?_pollTimer]
      rcases Session.keptTime? (some answer) with _ | ms <;> rfl
    rcases c.size with _ | size <;>
      simpa [List.filterMap_cons, LogEntry.gpuTime?] using hpolled

/-! ## The room of the windows -/

namespace Telemetry

variable {settings : TelemetrySettings} {t u : Telemetry}

/-- The windows have room for as many samples as the settings say, and for one at least. -/
structure SizedFor (t : Telemetry) (settings : TelemetrySettings) : Prop where
  frames : t.frames.capacity = max 1 settings.frameWindow
  gpu : t.gpu.capacity = max 1 settings.gpuWindow

theorem sizedFor_of_ofSettings? (ht : ofSettings? settings = some t) : t.SizedFor settings := by
  rw [ofSettings?_eq_some ht]
  exact ⟨Nat.max_comm _ _, Nat.max_comm _ _⟩

theorem SizedFor.of_reset_eq (ht : t.SizedFor settings) (h : u.reset = t.reset) :
    u.SizedFor settings where
  frames := (congrArg (fun m => m.frames.capacity) h).trans ht.frames
  gpu := (congrArg (fun m => m.gpu.capacity) h).trans ht.gpu

end Telemetry

namespace Session

variable {ρ G : Type} [Seconds ρ]

/-! ## What the parts of a tick record -/

section Parts

theorem accepted_of_keptTime? {poll : Option TimerPoll} {ms : Float}
    (h : keptTime? poll = some ms) : Telemetry.acceptsGpu ms := by
  unfold keptTime? at h
  split at h
  · obtain ⟨hms, ⟨⟩⟩ := Option.ite_none_right_eq_some.1 h
    exact hms
  · cases h

variable (s : Session ρ β) (now : Nat) (poll : Option TimerPoll)

omit [Seconds ρ] in
theorem windows_recordInterval :
    (s.recordInterval now).telemetry.frames =
        (s.clock.previousTick.toList.map fun earlier =>
          Double.ofFloat (Span.mk (now - earlier)).milliseconds).foldl Window.push
            s.telemetry.frames ∧
      (s.recordInterval now).telemetry.gpu = s.telemetry.gpu := by
  unfold recordInterval
  rcases s.clock.previousTick with _ | earlier <;> exact ⟨rfl, rfl⟩

omit [Seconds ρ] in
theorem windows_withPoll :
    (s.withPoll poll).telemetry.frames = s.telemetry.frames ∧
      (s.withPoll poll).telemetry.gpu =
        ((keptTime? poll).toList.map Double.ofFloat).foldl Window.push s.telemetry.gpu := by
  unfold withPoll
  rcases hk : keptTime? poll with _ | ms
  · exact ⟨rfl, rfl⟩
  · simp [Telemetry.recordGpu, accepted_of_keptTime? hk]

/-- Before it draws, a tick records the time since the last one, and a device time that the timer
made known. -/
theorem windows_drawing (today : Date) (used : Shader.UniformSet) (r : β) :
    (s.drawing now today used poll r).telemetry.frames =
        (s.clock.previousTick.toList.map fun earlier =>
          Double.ofFloat (Span.mk (now - earlier)).milliseconds).foldl Window.push
            s.telemetry.frames ∧
      (s.drawing now today used poll r).telemetry.gpu =
        ((keptTime? poll).toList.map Double.ofFloat).foldl Window.push s.telemetry.gpu := by
  have hpolled := windows_withPoll { s.begun now with block := s.frameBlock now today used } poll
  have hrecorded := windows_recordInterval s now
  exact ⟨hpolled.1.trans hrecorded.1,
    hpolled.2.trans (congrArg (List.foldl Window.push · _) hrecorded.2)⟩

omit [Seconds ρ] in
theorem windows_drawn (token : Nat) (outcome : DrawOutcome) :
    (s.drawn now token outcome).telemetry.frames = s.telemetry.frames ∧
      (s.drawn now token outcome).telemetry.gpu = s.telemetry.gpu := by
  cases outcome <;> exact ⟨rfl, rfl⟩

end Parts

/-! ## The device time of a report -/

section ShowsNewest

variable {s t : Session ρ β}

/-- The last device time that was kept is the newest one held. -/
def ShowsNewest (s : Session ρ β) : Prop :=
  s.lastGpuTime.map Double.ofFloat = s.telemetry.gpu.last?

omit [Seconds ρ] in
theorem ShowsNewest.withPoll (hs : ShowsNewest s) (poll : Option TimerPoll) :
    ShowsNewest (s.withPoll poll) := by
  unfold ShowsNewest
  rw [(windows_withPoll s poll).2]
  unfold Session.withPoll
  rcases keptTime? poll with _ | ms
  · exact hs
  · exact (Window.last?_push _ _).symm

theorem StepsTo.showsNewest {op : Operation ρ β G} (h : StepsTo s op t) (hs : ShowsNewest s) :
    ShowsNewest t := by
  cases h with
  | loaded => rfl
  | @ticked now today _ _ used _ poll r outcome token =>
    have hbegun : ShowsNewest { s.begun now with block := s.frameBlock now today used } :=
      hs.trans (congrArg Window.last? (windows_recordInterval s now).2.symm)
    have hdrawing : ShowsNewest (s.drawing now today used poll r) := hbegun.withPoll poll
    cases outcome <;> exact hdrawing
  | _ => exact hs

theorem create?_telemetry {options : PreviewOptions} (hs : create? options = some s) :
    s.lastGpuTime = none ∧ Telemetry.ofSettings? options.telemetry = some s.telemetry := by
  simp only [create?, Option.bind_eq_bind, Option.bind_eq_some_iff, Option.pure_def,
    Option.some.injEq] at hs
  obtain ⟨telemetry, htelemetry, rfl⟩ := hs
  exact ⟨rfl, htelemetry⟩

theorem Reachable.showsNewest [Renderer G β] [Journal G] (hs : Reachable G s) :
    ShowsNewest s := by
  obtain ⟨options, s₀, ops, h, hs₀, rfl⟩ := hs
  have hnew : ShowsNewest s₀ := by
    obtain ⟨hlast, htelemetry⟩ := create?_telemetry hs₀
    unfold ShowsNewest
    rw [hlast, Telemetry.ofSettings?_eq_some htelemetry]
    rfl
  refine (run_induction (P := fun s _ => Coherent s ∧ ShowsNewest s) ops ?_
    ⟨coherent_of_create? hs₀, hnew⟩).2
  rintro op - s h ⟨hs, hshows⟩
  exact ⟨coherent_operate h op hs, (stepsTo_operate h op hs).showsNewest hshows⟩

end ShowsNewest

/-! ## The ticks of a run -/

section Ticks

variable [Renderer G β] [Journal G] (s : Session ρ β) (h : Host G)

/-- The instants of the ticks of a run that somebody waits for, in its order. -/
def tickInstants (ops : List (Operation ρ β G)) : List Nat := (s.tickTimes h ops).map TickTime.now

theorem tickInstants_cons (op : Operation ρ β G) (ops : List (Operation ρ β G)) :
    s.tickInstants h (op :: ops) =
      s.tickInstants h [op] ++ (operate s op h).1.tickInstants (operate s op h).2 ops := by
  simp [tickInstants, tickTimes, clockEvents]

variable {s h}

theorem tickInstants_tick {now : Nat} {today : Date} (hs : Coherent s)
    (ht : s.phase.isTicking ∧ s.pendingTick.isSome) :
    s.tickInstants h [.tick now today] = [now] := by
  rw [tickInstants, tickTimes_cons_of_ticked (clockEvent?_of_ticking hs ht)]
  rfl

theorem tickInstants_tick_of_not_ticking {now : Nat} {today : Date}
    (ht : ¬ (s.phase.isTicking ∧ s.pendingTick.isSome)) :
    s.tickInstants h [.tick now today] = [] := by
  rw [tickInstants, tickTimes_cons_of_not_ticked fun a ha => ?_]
  · rfl
  · rw [clockEvent?_of_not_ticking ht] at ha
    cases ha

theorem tickInstants_of_not_tick {op : Operation ρ β G}
    (hop : ∀ now today, op ≠ .tick now today) : s.tickInstants h [op] = [] := by
  cases op with
  | tick now today => exact absurd rfl (hop now today)
  | _ => rfl

end Ticks

/-! ## The samples behind a run -/

section Run

variable [Renderer G β] [Journal G] {s t : Session ρ (Logged β)} (h : Host (Logbook G β))
variable {instants : List Nat} {entries es : List (LogEntry β)}

/-- The telemetry holds the samples of the ticks at the given instants that made the entries. -/
structure Measured (instants : List Nat) (entries : List (LogEntry β))
    (s : Session ρ (Logged β)) : Prop where
  frames : s.telemetry.frames.Holds (frameTimes instants)
  gpu : s.telemetry.gpu.Holds (gpuTimes entries)
  /-- A draw that failed ends the session before its tick is noted. -/
  previousTick : s.phase ≠ .disposed → s.clock.previousTick = instants.getLast?

omit [Seconds ρ] in
theorem measured_nil {settings : TelemetrySettings} (hs : s.telemetry.SizedFor settings) (hframes : s.telemetry.frames.samples = [])
    (hgpu : s.telemetry.gpu.samples = []) (hprevious : s.clock.previousTick = none) :
    Measured [] [] s where
  frames := Window.holds_of_samples_eq_nil (by rw [hs.frames]; omega) hframes
  gpu := Window.holds_of_samples_eq_nil (by rw [hs.gpu]; omega) hgpu
  previousTick _ := hprevious

omit [Seconds ρ] in
theorem Measured.of_sameFigures (hm : Measured instants entries s) (hsame : SameFigures s t)
    (hphase : s.phase = .disposed → t.phase = .disposed) (hes : ∀ e ∈ es, e.isQuiet) :
    Measured instants (entries ++ es) t where
  frames := by
    rw [hsame.telemetry]
    exact hm.frames
  gpu := by
    rw [hsame.telemetry, gpuTimes_append, gpuTimes_of_isQuiet hes, List.append_nil]
    exact hm.gpu
  previousTick ht := by
    rw [hsame.previousTick]
    exact hm.previousTick fun hs => ht (hphase hs)

/-- A tick records the time since the last one before it draws, so it does whatever comes of the
draw. -/
theorem measured_tick (now : Nat) (today : Date) (hs : Coherent s)
    (ht : s.phase.isTicking ∧ s.pendingTick.isSome) (hm : Measured instants entries s) :
    ∃ es, (tick s now today h).2.graphics.entries = h.graphics.entries ++ es ∧
      Measured (instants ++ [now]) (entries ++ es) (tick s now today h).1 := by
  obtain ⟨r, c, used, h', -, hu, -, -, -, -, hent, hrun⟩ :=
    entered_runTick h now today hs.toLoaded ht.1
  have hd := ne_disposed_of_isTicking ht.1
  have hwindows := s.windows_drawing now (c.poll.map Prod.fst) today used ⟨r.number, c.drawn⟩
  obtain ⟨fs, hfs, hquiet⟩ := quiet_afterDraw
    (s := s.drawing now today used (c.poll.map Prod.fst) ⟨r.number, c.drawn⟩) h' now c.outcome hd
    rfl rfl
  have hfst := afterDraw_fst
    (s := s.drawing now today used (c.poll.map Prod.fst) ⟨r.number, c.drawn⟩) h' now c.outcome hd
    rfl
  rw [tick_eq_runTick s now today ht.1 ht.2, hrun]
  refine ⟨c.drawing.map (.called r.number) ++ fs, ?_, ?_, ?_, ?_⟩
  · rw [hfs, hent.entries, List.append_assoc]
  · rw [hfst, (windows_drawn _ _ _ _).1, hwindows.1, frameTimes_concat, ← hm.previousTick hd]
    exact hm.frames.pushAll _
  · rw [hfst, (windows_drawn _ _ _ _).2, hwindows.2, gpuTimes_append, gpuTimes_append,
      c.gpuTimes_drawing, gpuTimes_of_isQuiet hquiet, List.append_nil]
    exact hm.gpu.pushAll _
  · rw [hfst, List.getLast?_concat]
    intro hlive
    rcases ho : c.outcome with _ | _ | reason
    · rfl
    · rfl
    · rw [ho] at hlive
      exact absurd rfl hlive

theorem measured_operate (op : Operation ρ β G) (hs : Coherent s)
    (hm : Measured instants entries s) :
    ∃ es, (operate s op.logged h).2.graphics.entries = h.graphics.entries ++ es ∧
      ((∃ n, .connected n ∈ es) ∨
        Measured (instants ++ s.tickInstants h [op.logged]) (entries ++ es)
          (operate s op.logged h).1) := by
  by_cases htick : ∃ now today, op = .tick now today
  · obtain ⟨now, today, rfl⟩ := htick
    simp only [Operation.logged]
    by_cases ht : s.phase.isTicking ∧ s.pendingTick.isSome
    · rw [tickInstants_tick hs ht]
      obtain ⟨es, hes, hmeasured⟩ := measured_tick h now today hs ht hm
      exact ⟨es, hes, Or.inr hmeasured⟩
    · rw [tickInstants_tick_of_not_ticking ht, operate, tick_eq_pure s now today ht]
      exact ⟨[], (List.append_nil _).symm, Or.inr (by simpa using hm)⟩
  · have hop : ∀ now today, op ≠ .tick now today := fun now today heq => htick ⟨now, today, heq⟩
    obtain ⟨es, hes, hconnected | ⟨hquiet, hsame, -⟩⟩ := quietly_or_connected h hop hs
    · exact ⟨es, hes, Or.inl hconnected⟩
    · have hlogged : ∀ now today, op.logged ≠ .tick now today := by
        intro now today heq
        cases op <;> cases heq
        exact hop _ _ rfl
      rw [tickInstants_of_not_tick hlogged, List.append_nil]
      exact ⟨es, hes, Or.inr (hm.of_sameFigures hsame
        (stepsTo_operate h op.logged hs).phase_of_disposed hquiet.quiet)⟩

/-- A run measures its ticks, unless a load succeeds in it. -/
theorem measured_run (ops : List (Operation ρ β G)) (hs : Coherent s)
    (hm : Measured instants entries s) :
    ∃ es, (run s (ops.map .logged) h).2.graphics.entries = h.graphics.entries ++ es ∧
      ((∃ n, .connected n ∈ es) ∨
        Measured (instants ++ s.tickInstants h (ops.map .logged)) (entries ++ es)
          (run s (ops.map .logged) h).1) := by
  induction ops generalizing s h instants entries with
  | nil =>
    rw [List.map_nil, show s.tickInstants h [] = [] from rfl]
    exact ⟨[], (List.append_nil _).symm, Or.inr (by simpa using hm)⟩
  | cons op ops ih =>
    obtain ⟨es, hes, hop⟩ := measured_operate h op hs hm
    have hs' := coherent_operate h op.logged hs
    rw [List.map_cons, run_cons_apply, tickInstants_cons]
    rcases hop with ⟨n, hn⟩ | hop
    · obtain ⟨fs, hfs⟩ := exists_entries_run (operate s op.logged h).2 ops hs'
      exact ⟨es ++ fs, by rw [hfs, hes, List.append_assoc],
        Or.inl ⟨n, List.mem_append_left _ hn⟩⟩
    · obtain ⟨fs, hfs, hrest⟩ := ih (operate s op.logged h).2 hs' hop
      refine ⟨es ++ fs, by rw [hfs, hes, List.append_assoc], ?_⟩
      rcases hrest with ⟨n, hn⟩ | hrest
      · exact Or.inl ⟨n, List.mem_append_right _ hn⟩
      · rw [List.append_assoc, List.append_assoc] at hrest
        exact Or.inr hrest

/-- From a load that succeeded on, as long as no other does, the telemetry holds the times between
the ticks of the run, the newest of them up to the size of the window, whatever came of their draws;
and of the answers of the timer those above zero and below a second, again the newest.  The device
time in the report on a session is the newest one that it holds. -/
theorem samples_of_run {options : PreviewOptions} {s₀ s s₁ s' : Session ρ (Logged β)}
    {h₀ h h₁ h' : Host (Logbook G β)} (hs₀ : create? options = some s₀)
    (before : List (Operation ρ (Logged β) (Logbook G β))) (hbefore : run s₀ before h₀ = (s, h))
    {source : List Char} {width height : Nat}
    {connect : Shader.Assembly → Nat → Nat → StateM G (Except ConnectError β)}
    (hload : load s source width height (Logbook.connect connect) h = ((.ok (), s₁), h₁))
    (ops : List (Operation ρ β G)) (hrun : run s₁ (ops.map .logged) h₁ = (s', h'))
    {entries : List (LogEntry β)} (hentries : h'.graphics.entries = h₁.graphics.entries ++ entries)
    (hlast : ∀ n, .connected n ∉ entries) :
    s'.telemetry.frames.samples = (frameTimes (s₁.tickInstants h₁ (ops.map .logged))).rtake
        (max 1 options.telemetry.frameWindow) ∧
      s'.telemetry.gpu.samples = (gpuTimes entries).rtake (max 1 options.telemetry.gpuWindow) ∧
      ∀ t : Session ρ β, Reachable G t → ∀ g : G,
        (t.report g).lastGpuTime.map Double.ofFloat = t.telemetry.gpu.last? := by
  obtain ⟨-, a, -, r, -, rfl⟩ := load_eq_ok hload
  have hs₁ : Coherent (s.unloaded.withShader a (max width 1) (max height 1) r) :=
    coherent_of_ready rfl rfl rfl rfl
  -- the windows keep the size that they had in the new session
  have hnew := Telemetry.sizedFor_of_ofSettings? (create?_telemetry hs₀).2
  have hsetup := sameSetup_run h₀ before (coherent_of_create? hs₀)
  rw [hbefore] at hsetup
  have hsized := (hnew.of_reset_eq hsetup.telemetry).of_reset_eq
    (u := (s.unloaded.withShader a (max width 1) (max height 1) r).telemetry) rfl
  have hsized' := hsized.of_reset_eq (sameSetup_run h₁ (ops.map Operation.logged) hs₁).telemetry
  obtain ⟨entries', hentries', hmeasured⟩ :=
    measured_run h₁ ops hs₁ (measured_nil hsized rfl rfl rfl)
  rw [hrun] at hentries' hmeasured hsized'
  obtain rfl := List.append_cancel_left (hentries.symm.trans hentries')
  have hm := hmeasured.resolve_left fun ⟨n, hn⟩ => hlast n hn
  refine ⟨?_, ?_, fun t ht _ => ht.showsNewest⟩
  · rw [hm.frames.samples, hsized'.frames]
    rfl
  · rw [hm.gpu.samples, hsized'.gpu]
    rfl

end Run

/-- Options by which two times between ticks are held. -/
def measuringOptions : PreviewOptions :=
  { PreviewOptions.default with
    telemetry := { TelemetrySettings.default with frameWindow := 2 } }

/-- A new session with these options. -/
def measuringSession : Session Float (Logged ScriptedRenderer) :=
  (create? measuringOptions).get rfl

/-- Time runs backwards to the third of four ticks, and the last one fails to draw. -/
def measuredPreview : List (Operation Float ScriptedRenderer Recording) :=
  [.start, .tick 0 .zero, .tick 16000000 .zero, .halt, .start, .setPaused true 1.5,
    .tick 12000000 .zero, .tick 50000000 .zero, .start, .tick 66000000 .zero]

/-- The answer, the session and the host behind a load; one of the times of its timer is too long. -/
def loadedMeasuring :
    (Except LoadError Unit × Session Float (Logged ScriptedRenderer)) ×
      Host (Logbook Recording ScriptedRenderer) :=
  load measuringSession blankShader 320 240 (Logbook.connect (ScriptedRenderer.connect
    (.ok ⟨0, some [.ready 2.5, .pending, .ready 1500.0, .ready 0.75],
      [.presented, .skipped, .presented, .failed "lost"], 0⟩))) blankHost

theorem samples_of_run_measuredPreview :
    ∃ (s₁ s' : Session Float (Logged ScriptedRenderer))
      (h₁ h' : Host (Logbook Recording ScriptedRenderer)),
      loadedMeasuring = ((.ok (), s₁), h₁) ∧ run s₁ (measuredPreview.map .logged) h₁ = (s', h') ∧
      s'.phase = .disposed ∧
      s₁.tickInstants h₁ (measuredPreview.map .logged) = [0, 16000000, 12000000, 50000000] ∧
      s'.telemetry.frames.samples =
        [.ofFloat (Span.mk 0).milliseconds, .ofFloat (Span.mk 38000000).milliseconds] ∧
      s'.telemetry.gpu.samples = [.ofFloat 2.5, .ofFloat 0.75] := by
  have hplayed : loadedMeasuring.1.1 = .ok () ∧ connections loadedMeasuring.2 = 1 ∧
      connections (run loadedMeasuring.1.2 (measuredPreview.map .logged) loadedMeasuring.2).2 = 1 ∧
      (run loadedMeasuring.1.2 (measuredPreview.map .logged) loadedMeasuring.2).1.phase =
        .disposed ∧
      loadedMeasuring.1.2.tickInstants loadedMeasuring.2 (measuredPreview.map .logged) =
        [0, 16000000, 12000000, 50000000] ∧
      gpuTimes loadedMeasuring.2.graphics.entries = [] ∧
      gpuTimes (run loadedMeasuring.1.2 (measuredPreview.map .logged)
        loadedMeasuring.2).2.graphics.entries = [.ofFloat 2.5, .ofFloat 0.75] := by
    decide +kernel
  have hnew : create? measuringOptions = some measuringSession := (Option.some_get _).symm
  -- from here on nothing is to be evaluated
  rcases hload : loadedMeasuring with ⟨⟨answer, s₁⟩, h₁⟩
  rw [hload] at hplayed
  simp only at hplayed
  rcases hrun : run s₁ (measuredPreview.map .logged) h₁ with ⟨s', h'⟩
  rw [hrun] at hplayed
  obtain ⟨rfl, hbefore, hbehind, hphase, hinstants, hearlier, htimes⟩ := hplayed
  have hs₁ : Coherent s₁ := by
    obtain ⟨-, a, -, r, -, rfl⟩ := load_eq_ok hload
    exact coherent_of_ready rfl rfl rfl rfl
  obtain ⟨entries, hentries⟩ := exists_entries_run h₁ measuredPreview hs₁
  rw [hrun] at hentries
  have hlast := not_connected_of_connections_eq hentries (hbehind.trans hbefore.symm)
  obtain ⟨hframes, hgpu, -⟩ := samples_of_run hnew [] rfl hload measuredPreview hrun hentries hlast
  rw [hinstants] at hframes
  rw [hentries, gpuTimes_append, hearlier, List.nil_append] at htimes
  rw [htimes] at hgpu
  exact ⟨s₁, s', h₁, h', rfl, hrun, hphase, hinstants, hframes, hgpu⟩

end Session

end ShaderPreview
