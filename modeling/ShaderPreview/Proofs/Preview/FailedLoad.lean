import ShaderPreview.Proofs.Preview.TickCalls

/-!
# Loads that fail

A load gives up the shader there is before it looks at the new one.  So when it fails, be it for the
source or for the connection, the session is left without renderer, uniforms and pending tick
(`HoldsNothing`).  Until a load succeeds such a session does nothing of what it is asked: each
operation is a `pure` one, on whatever host.
-/

namespace ShaderPreview

namespace Operation

variable {ρ β G : Type}

/-- The operation neither loads a shader nor ends the session. -/
def isOrdinary : Operation ρ β G → Bool
  | load .. | dispose => false
  | _ => true

end Operation

namespace Session

variable {ρ β G : Type}

/-! ## Sessions without a shader -/

/-- There is no shader, and nothing of one is left. -/
structure HoldsNothing (s : Session ρ β) : Prop where
  phase : s.phase = .uninitialized
  renderer : s.renderer = none
  used : s.used = none
  pendingTick : s.pendingTick = none

theorem holdsNothing_unloaded {s : Session ρ β} (hd : s.phase ≠ .disposed) :
    HoldsNothing s.unloaded :=
  ⟨if_neg hd, rfl, rfl, rfl⟩

section Ordinary

variable [Seconds ρ] [Renderer G β] [Journal G] {s : Session ρ β}

/-- Without a shader a session takes note of a pause and of a size asked for, and does nothing. -/
theorem operate_of_holdsNothing (hs : HoldsNothing s) {op : Operation ρ β G}
    (hop : op.isOrdinary) :
    ∃ t : Session ρ β, operate s op = (pure t : StateM (Host G) _) ∧ HoldsNothing t := by
  have hl : s.phase.isLive = false := by rw [hs.phase]; rfl
  have ht : s.phase.isTicking = false := by rw [hs.phase]; rfl
  cases op with
  | load => cases hop
  | dispose => cases hop
  | start => exact ⟨s, start_of_ne_ready s (by simp [hs.phase]), hs⟩
  | setPaused paused time =>
    refine ⟨{ s with clock := s.clock.setPaused paused time }, ?_,
      ⟨hs.phase, hs.renderer, hs.used, hs.pendingTick⟩⟩
    obtain ⟨hphase, -, -, -⟩ := hs
    simp only [operate, setPaused]
    rw [hphase]
    rfl
  | halt => exact ⟨s, halt_of_not_isTicking s ht, hs⟩
  | resize width height => exact ⟨s, resize_eq_pure s (by simp [hl]), hs⟩
  | requestSize width height =>
    exact ⟨s.requestSize width height, rfl, ⟨hs.phase, hs.renderer, hs.used, hs.pendingTick⟩⟩
  | pointerMoved x y => exact ⟨s, congrArg pure (pointerMoved_of_not_isLive s x y hl), hs⟩
  | pointerPressed x y => exact ⟨s, congrArg pure (pointerPressed_of_not_isLive s x y hl), hs⟩
  | tick now today => exact ⟨s, tick_eq_pure s now today (by simp [ht]), hs⟩

theorem run_of_holdsNothing (hs : HoldsNothing s) {ops : List (Operation ρ β G)}
    (hops : ∀ op ∈ ops, op.isOrdinary) :
    ∃ t : Session ρ β, run s ops = (pure t : StateM (Host G) _) ∧ HoldsNothing t := by
  induction ops generalizing s with
  | nil => exact ⟨s, rfl, hs⟩
  | cons op ops ih =>
    obtain ⟨t, hop, ht⟩ := operate_of_holdsNothing hs (hops op List.mem_cons_self)
    obtain ⟨u, hrun, hu⟩ := ih ht fun op' hm => hops op' (List.mem_cons_of_mem _ hm)
    refine ⟨u, ?_, hu⟩
    funext h
    rw [run_cons_apply, hop, pure_apply, hrun]

end Ordinary

/-! ## The end of the shader before -/

/-- The queue after the pending tick, if there is one, was withdrawn. -/
def ticksWithdrawn (s : Session ρ β) (t : Ticks) : Ticks :=
  (s.pendingTick.map t.cancel).getD t

theorem cancelPending_ticks (s : Session ρ β) (h : Host G) :
    (cancelPending s h).2.ticks = s.ticksWithdrawn h.ticks := by
  unfold cancelPending ticksWithdrawn
  rcases s.pendingTick with _ | token <;> rfl

section Logged

variable [Renderer G β] {s : Session ρ (Logged β)} (h : Host (Logbook G β))

/-- The entry that the end of the shader makes: its renderer, if there is one, is released. -/
def releaseEntries (s : Session ρ (Logged β)) : List (LogEntry β) :=
  s.renderer.toList.map fun r => .called r.number .release

theorem entered_releaseRenderer_of_any : Entered h s.releaseEntries (releaseRenderer s h).2 := by
  unfold releaseEntries
  rcases hr : s.renderer with _ | r
  · unfold releaseRenderer
    rw [hr]
    exact .refl h
  · exact entered_releaseRenderer h hr

theorem teardown_snd :
    (teardown s h).2.graphics.entries = h.graphics.entries ++ s.releaseEntries ∧
      (teardown s h).2.ticks = s.ticksWithdrawn h.ticks ∧
      (teardown s h).2.published = h.published := by
  have hrelease := entered_releaseRenderer_of_any (s := { s with pendingTick := none })
    (cancelPending s h).2
  unfold teardown
  simp only [bind_apply, pure_apply, cancelPending_fst]
  exact ⟨by rw [hrelease.entries, cancelPending_graphics]; rfl,
    hrelease.ticks.trans (cancelPending_ticks s h),
    hrelease.published.trans (cancelPending_published s h)⟩

/-! ## Loads that fail -/

variable [Seconds ρ] [Journal G]

/-- What the way of a load that fails left in the log: nothing behind a source that cannot be read,
and otherwise the one connection that was refused. -/
inductive Attempt (source : List Char) : LoadError → List (LogEntry β) → Prop where
  | unread {e : Shader.SourceError} (hread : Shader.Assembly.read source = .error e) :
      Attempt source (.source e) []
  | refused {a : Shader.Assembly} {remarks : Shader.Remarks}
      (hread : Shader.Assembly.read source = .ok (a, remarks)) (e : ConnectError) :
      Attempt source (.connect e) [.refused e]

variable {source : List Char} {width height : Nat}
variable {connect : Shader.Assembly → Nat → Nat → StateM G (Except ConnectError β)}

theorem load_eq_error (hd : s.phase ≠ .disposed) {e : LoadError} {s' : Session ρ (Logged β)}
    {h' : Host (Logbook G β)}
    (hl : load s source width height (Logbook.connect connect) h = ((.error e, s'), h')) :
    s' = s.unloaded ∧ h'.ticks = s.ticksWithdrawn h.ticks ∧ h'.published = h.published ∧
      ∃ attempt, h'.graphics.entries = h.graphics.entries ++ s.releaseEntries ++ attempt ∧
        Attempt source e attempt := by
  obtain ⟨hentries, hticks, hpublished⟩ := teardown_snd (s := s) h
  unfold load at hl
  rw [if_neg hd] at hl
  simp only [bind_apply, teardown_fst] at hl
  generalize (teardown s h).2 = h₁ at hl hentries hticks hpublished
  rcases ha : Shader.Assembly.read source with e' | ⟨a, remarks⟩
  · rw [ha] at hl
    cases hl
    exact ⟨rfl, hticks, hpublished, [], by rw [hentries, List.append_nil], .unread ha⟩
  · rw [ha] at hl
    simp only [bind_apply, Host.onGraphics_apply] at hl
    have hnote := entered_noteAssembled h₁ remarks
    generalize (noteAssembled remarks h₁).2 = h₂ at hl hnote
    rcases Logbook.connect_cases connect a (max width 1) (max height 1) h₂.graphics with
      ⟨r, world, hc⟩ | ⟨e', world, hc⟩
    · rw [hc] at hl
      cases hl
    · rw [hc] at hl
      cases hl
      refine ⟨rfl, hnote.ticks.trans hticks, hnote.published.trans hpublished, [.refused e'], ?_,
        .refused ha e'⟩
      rw [← hentries, ← List.append_nil h₁.graphics.entries, ← hnote.entries]

end Logged

/-! ## Until a load succeeds -/

/-- Nothing happened between the hosts but connections that were refused. -/
def OnlyRefused (h h' : Host (Logbook G β)) : Prop :=
  ∃ entries, Entered h entries h' ∧ ∀ entry ∈ entries, ∃ e, entry = .refused e

section Fruitless

variable [Seconds ρ] [Renderer G β] [Journal G]

theorem exists_error_of_load (s : Session ρ β) (h : Host G) (source : List Char)
    (width height : Nat)
    (connect : Shader.Assembly → Nat → Nat → StateM G (Except ConnectError β))
    (hc : ∀ a remarks, Shader.Assembly.read source = .ok (a, remarks) →
      ∀ g, ∃ e, (connect a (max width 1) (max height 1) g).1 = .error e) :
    ∃ e, (load s source width height connect h).1.1 = .error e := by
  unfold load
  split
  · exact ⟨_, rfl⟩
  · simp only [bind_apply]
    rcases ha : Shader.Assembly.read source with e | ⟨a, remarks⟩
    · exact ⟨_, rfl⟩
    · simp only [bind_apply, Host.onGraphics_apply]
      obtain ⟨e, he⟩ := hc a remarks ha
        ((noteAssembled remarks (teardown s h).2).2 : Host G).graphics
      rw [he]
      exact ⟨_, rfl⟩

/-- The operation does not end the session, and if it is a load it fails. -/
def Fails (s : Session ρ β) (h : Host G) : Operation ρ β G → Prop
  | .load source width height connect => ∃ e, (load s source width height connect h).1.1 = .error e
  | .dispose => False
  | _ => True

/-- All loads of the run fail, and the session is not ended. -/
def Fruitless (s : Session ρ β) (h : Host G) : List (Operation ρ β G) → Prop
  | [] => True
  | op :: ops => Fails s h op ∧ Fruitless (operate s op h).1 (operate s op h).2 ops

variable {s : Session ρ (Logged β)} (h : Host (Logbook G β))

theorem operate_of_fails (hs : HoldsNothing s) {op : Operation ρ β G} (hop : Fails s h op.logged) :
    HoldsNothing (operate s op.logged h).1 ∧ OnlyRefused h (operate s op.logged h).2 := by
  have hordinary (ho : op.logged.isOrdinary) :
      HoldsNothing (operate s op.logged h).1 ∧ OnlyRefused h (operate s op.logged h).2 := by
    obtain ⟨t, hq, ht⟩ := operate_of_holdsNothing (G := Logbook G β) hs ho
    rw [hq]
    exact ⟨ht, [], .refl h, by simp⟩
  cases op with
  | load source width height connect =>
    have hd : s.phase ≠ .disposed := by rw [hs.phase]; decide
    obtain ⟨e, he⟩ := hop
    rcases hl : load s source width height (Logbook.connect connect) h with ⟨⟨answer, s'⟩, h'⟩
    rw [hl] at he
    obtain rfl : answer = .error e := he
    obtain ⟨rfl, hticks, hpublished, attempt, hentries, hattempt⟩ := load_eq_error h hd hl
    simp only [ticksWithdrawn, hs.pendingTick, releaseEntries, hs.renderer, Option.map_none,
      Option.getD_none, Option.toList_none, List.map_nil, List.append_nil] at hticks hentries
    simp only [Operation.logged, operate, bind_apply, pure_apply, hl]
    refine ⟨holdsNothing_unloaded hd, attempt, ⟨hentries, hticks, hpublished⟩, ?_⟩
    cases hattempt with
    | unread => simp
    | refused _ e => simp
  | dispose => exact hop.elim
  | _ => exact hordinary rfl

theorem run_of_fruitless (hs : HoldsNothing s) {ops : List (Operation ρ β G)}
    (hops : Fruitless s h (ops.map .logged)) :
    HoldsNothing (run s (ops.map .logged) h).1 ∧
      OnlyRefused h (run s (ops.map .logged) h).2 := by
  induction ops generalizing s h with
  | nil => exact ⟨hs, [], .refl h, by simp⟩
  | cons op ops ih =>
    obtain ⟨ht, es, hes, hrefused⟩ := operate_of_fails h hs hops.1
    obtain ⟨hu, fs, hfs, hrefused'⟩ := ih _ ht hops.2
    exact ⟨hu, es ++ fs, hes.trans hfs, List.forall_mem_append.2 ⟨hrefused, hrefused'⟩⟩

/-- A load that fails in a reachable session leaves nothing live.  The renderer there was is released
once, before anything else, and the pending tick withdrawn; a connection is tried exactly if the
source can be read.  After that, whatever ordinary operations the session is asked for do nothing
on whatever host, and a run in which further loads fail makes no call, asks for no tick, withdraws
none and publishes nothing, but for the connections of these loads. -/
theorem nothing_live_of_load_fails (hs : Reachable (Logbook G β) s) (hd : s.phase ≠ .disposed)
    {source : List Char} {width height : Nat}
    {connect : Shader.Assembly → Nat → Nat → StateM G (Except ConnectError β)} {e : LoadError}
    {s' : Session ρ (Logged β)} {h' : Host (Logbook G β)}
    (hl : load s source width height (Logbook.connect connect) h = ((.error e, s'), h')) :
    HoldsNothing s' ∧
    (∃ released attempt,
      h'.graphics.entries = h.graphics.entries ++ released ++ attempt ∧
      (s.phase.isLive → ∃ r, s.renderer = some r ∧ released = [.called r.number .release]) ∧
      (¬ s.phase.isLive → released = []) ∧
      ((∃ e', Shader.Assembly.read source = .error e' ∧ e = .source e' ∧ attempt = []) ∨
        ∃ found e', Shader.Assembly.read source = .ok found ∧ e = .connect e' ∧
          attempt = [.refused e'])) ∧
    (s.phase.isTicking → ∃ token, s.pendingTick = some token ∧ h'.ticks = h.ticks.cancel token) ∧
    (¬ s.phase.isTicking → h'.ticks = h.ticks) ∧
    h'.published = h.published ∧
    (∀ ops : List (Operation ρ (Logged β) (Logbook G β)), (∀ op ∈ ops, op.isOrdinary) →
      ∃ t : Session ρ (Logged β),
        run s' ops = (pure t : StateM (Host (Logbook G β)) _) ∧ HoldsNothing t) ∧
    ∀ (ops : List (Operation ρ β G)) (h₁ : Host (Logbook G β)),
      Fruitless s' h₁ (ops.map .logged) →
        HoldsNothing (run s' (ops.map .logged) h₁).1 ∧
          OnlyRefused h₁ (run s' (ops.map .logged) h₁).2 := by
  have hc := hs.coherent
  obtain ⟨rfl, hticks, hpublished, attempt, hentries, hattempt⟩ := load_eq_error h hd hl
  have hnothing : HoldsNothing s.unloaded := holdsNothing_unloaded hd
  refine ⟨hnothing, ⟨s.releaseEntries, attempt, hentries, ?_, ?_, ?_⟩, ?_, ?_, hpublished,
    fun ops hops => run_of_holdsNothing hnothing hops,
    fun ops h₁ hops => run_of_fruitless h₁ hnothing hops⟩
  · intro hlive
    obtain ⟨r, hr⟩ := hc.exists_renderer hlive
    exact ⟨r, hr, by simp [releaseEntries, hr]⟩
  · intro hlive
    rw [← hc.used_iff_isLive, ← hc.renderer_iff_used, Option.not_isSome_iff_eq_none] at hlive
    simp [releaseEntries, hlive]
  · cases hattempt with
    | unread hread => exact Or.inl ⟨_, hread, rfl, rfl⟩
    | refused hread e' => exact Or.inr ⟨_, e', hread, rfl, rfl⟩
  · intro hticking
    obtain ⟨token, hp⟩ := Option.isSome_iff_exists.1 (hc.pendingTick_iff_isTicking.2 hticking)
    exact ⟨token, hp, by simpa [ticksWithdrawn, hp] using hticks⟩
  · intro hticking
    rw [← hc.pendingTick_iff_isTicking, Option.not_isSome_iff_eq_none] at hticking
    simpa [ticksWithdrawn, hticking] using hticks

/-- A connection that is always refused. -/
def refusedConnection : Shader.Assembly → Nat → Nat →
    StateM Recording (Except ConnectError ScriptedRenderer) :=
  ScriptedRenderer.connect (.error (.contextUnavailable "no adapter".toList))

/-- Operations that come to nothing, among them a load of no text and one that is refused. -/
def fruitlessPreview : List (Operation Float ScriptedRenderer Recording) :=
  [.start, .load [] 320 240 (ScriptedRenderer.connect (.ok steadyRenderer)), .tick 0 .zero, .halt,
    .setPaused true 0.5, .resize 640 480, .load blankShader 320 240 refusedConnection,
    .pointerMoved 1 1]

theorem nothing_live_of_load_fails_resizingPreview :
    ∃ (s s' : Session Float (Logged ScriptedRenderer))
      (h h' : Host (Logbook Recording ScriptedRenderer)) (e : LoadError),
      run freshSession (resizingPreview.map .logged) blankHost = (s, h) ∧ s.phase = .running ∧
      load s blankShader 320 240 (Logbook.connect refusedConnection) h = ((.error e, s'), h') ∧
      HoldsNothing s' ∧ (∃ token, h'.ticks = h.ticks.cancel token) ∧
      HoldsNothing (run s' (fruitlessPreview.map .logged) h').1 ∧
      OnlyRefused h' (run s' (fruitlessPreview.map .logged) h').2 := by
  have hs : Reachable (Logbook Recording ScriptedRenderer)
      (run freshSession (resizingPreview.map .logged) blankHost).1 :=
    ⟨_, _, _, _, create?_default, rfl⟩
  have hrunning : (run freshSession (resizingPreview.map .logged) blankHost).1.phase = .running := by
    decide +kernel
  have hunread : ∀ found, Shader.Assembly.read [] ≠ .ok found := by
    have hread : (Shader.Assembly.read []).toBool = false := by decide +kernel
    intro found hf
    rw [hf] at hread
    cases hread
  -- from here on the run is not to be evaluated
  generalize run freshSession (resizingPreview.map .logged) blankHost = loaded at hs hrunning
  obtain ⟨s, h⟩ := loaded
  simp only at hs hrunning
  obtain ⟨e, he⟩ := exists_error_of_load s h blankShader 320 240
    (Logbook.connect refusedConnection) fun _ _ _ _ => ⟨_, rfl⟩
  rcases hl : load s blankShader 320 240 (Logbook.connect refusedConnection) h with ⟨⟨answer, s'⟩, h'⟩
  rw [hl] at he
  obtain rfl : answer = .error e := he
  obtain ⟨hnothing, -, hticks, -, -, -, hrun⟩ :=
    nothing_live_of_load_fails h hs (by rw [hrunning]; decide) hl
  obtain ⟨token, -, hcancel⟩ := hticks (by rw [hrunning]; rfl)
  have hfruitless : Fruitless s' h' (fruitlessPreview.map .logged) := by
    refine ⟨trivial, ?_, trivial, trivial, trivial, trivial, ?_, trivial, trivial⟩
    · exact exists_error_of_load _ _ _ _ _ _ fun a remarks ha => absurd ha (hunread _)
    · exact exists_error_of_load _ _ _ _ _ _ fun _ _ _ _ => ⟨_, rfl⟩
  obtain ⟨hstill, hrefused⟩ := hrun fruitlessPreview h' hfruitless
  exact ⟨s, s', h, h', e, rfl, hrunning, hl, hnothing, ⟨token, hcancel⟩, hstill, hrefused⟩

end Fruitless

end Session

end ShaderPreview
