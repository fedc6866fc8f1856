import Mathlib.Data.List.Induction
import ShaderPreview.Proofs.Preview.Reload
import ShaderPreview.Proofs.Preview.TickCalls

/-!
# Presented frames are counted

From the last load that succeeded on, the frame count of a session and the total of its telemetry are
the number of draws in the log that presented a frame, and every so many of them a snapshot is
published.  `Counts` says what one operation does to the counts: a tick whose draw presents a frame
counts it, and nothing else changes any of them.
-/

namespace ShaderPreview

variable {β : Type}

namespace LogEntry

/-- The entry tells of a draw that presented a frame. -/
def presents : LogEntry β → Bool
  | called _ (.draw _ .presented _) => true
  | _ => false

/-- The entry tells of no call that only ticks make: of no uniforms, no measurement and no draw. -/
def isQuiet : LogEntry β → Bool
  | called _ (.draw ..) => false
  | called _ (.pollTimer ..) => false
  | called _ (.writeUniforms ..) => false
  | _ => true

end LogEntry

/-- The number of frames that were presented. -/
def presented (entries : List (LogEntry β)) : Nat := entries.countP LogEntry.presents

theorem presented_append (es fs : List (LogEntry β)) :
    presented (es ++ fs) = presented es + presented fs := List.countP_append

theorem presented_eq_zero_of_isQuiet {es : List (LogEntry β)} (h : ∀ e ∈ es, e.isQuiet) :
    presented es = 0 := by
  refine List.countP_eq_zero.2 fun e he hp => ?_
  have hq := h e he
  rcases e with n | error | ⟨n, call⟩
  · cases hp
  · cases hp
  · cases call with
    | draw => cases hq
    | _ => cases hp

namespace TickCalls

variable (c : TickCalls β) (n : Nat)

theorem presented_drawing : presented (c.drawing.map (.called n)) =
    if c.outcome = .presented then 1 else 0 := by
  unfold presented drawing
  rcases c.size with _ | size <;> rcases c.poll with _ | poll <;> rcases c.outcome with _ | _ | reason <;>
    rfl

/-- The uniforms are written once, before anything is drawn. -/
theorem block_of_drawing {pre post : List (LogEntry β)} {m : Nat} {block : UniformBlock} {behind : β}
    (h : c.drawing.map (.called n) = pre ++ .called m (.writeUniforms block behind) :: post) :
    block = c.block ∧ presented pre = 0 := by
  obtain ⟨size, resized, block', written, poll, timed, outcome, drawn⟩ := c
  -- the uniforms stand behind at most one call and in front of at most two
  rcases size with _ | size <;> rcases poll with _ | poll <;>
    rcases pre with _ | ⟨e₁, _ | ⟨e₂, _ | ⟨e₃, _ | ⟨e₄, pre⟩⟩⟩⟩ <;>
    simp [drawing] at h ⊢ <;> grind [presented, LogEntry.presents]

end TickCalls

namespace Operation

variable {ρ G : Type}

/-- The operation is a load. -/
def isLoad : Operation ρ β G → Bool
  | load .. => true
  | _ => false

/-- The operation has nothing to do with the counts. -/
def KeepsCounts : Operation ρ β G → Prop
  | load .. | tick .. => False
  | _ => True

theorem keepsCounts_logged {op : Operation ρ β G} : op.logged.KeepsCounts ↔ op.KeepsCounts := by
  cases op <;> exact Iff.rfl

end Operation

/-! ## Quiet stretches -/

/-- Between two hosts some entries were made, none of them about a frame, and nothing published. -/
structure Quietly {G : Type} (h : Host (Logbook G β)) (es : List (LogEntry β))
    (h' : Host (Logbook G β)) : Prop where
  entries : h'.graphics.entries = h.graphics.entries ++ es
  quiet : ∀ e ∈ es, e.isQuiet
  published : h'.published = h.published

namespace Quietly

variable {G : Type} {h₁ h₂ h₃ : Host (Logbook G β)} {es fs : List (LogEntry β)}

theorem of_eq (hg : h₂.graphics.entries = h₁.graphics.entries) (hp : h₂.published = h₁.published) :
    Quietly h₁ [] h₂ := ⟨by rw [hg, List.append_nil], by simp, hp⟩

theorem refl (h : Host (Logbook G β)) : Quietly h [] h := of_eq rfl rfl

theorem of_entered (h : Entered h₁ es h₂) (hes : ∀ e ∈ es, e.isQuiet) : Quietly h₁ es h₂ :=
  ⟨h.entries, hes, h.published⟩

theorem note [Journal G] (h : Host (Logbook G β)) (e : Event) : Quietly h [] (Host.note e h).2 :=
  of_entered (.note h e) (by simp)

theorem trans (h₁₂ : Quietly h₁ es h₂) (h₂₃ : Quietly h₂ fs h₃) : Quietly h₁ (es ++ fs) h₃ where
  entries := by rw [h₂₃.entries, h₁₂.entries, List.append_assoc]
  quiet := List.forall_mem_append.2 ⟨h₁₂.quiet, h₂₃.quiet⟩
  published := h₂₃.published.trans h₁₂.published

end Quietly

namespace Session

variable {ρ G : Type} {s : Session ρ (Logged β)} (h : Host (Logbook G β))

theorem quietly_cancelPending : Quietly h [] (cancelPending s h).2 :=
  .of_eq (by rw [cancelPending_graphics]) (cancelPending_published s h)

theorem quietly_schedule : Quietly h [] (schedule s h).2 :=
  .of_eq (by rw [schedule_graphics]) (schedule_published s h)

variable [Journal G]

theorem quietly_start : Quietly h [] (start s h).2 := by
  unfold start
  split
  · exact .refl h
  · exact (Quietly.note h .previewStarted).trans (quietly_schedule _)

theorem quietly_setPaused [Seconds ρ] (paused : Bool) (time : ρ) :
    Quietly h [] (setPaused s paused time h).2 := by
  unfold setPaused
  split
  · exact .refl h
  · simp only
    split <;> exact .of_eq rfl rfl

theorem quietly_halt : Quietly h [] (halt s h).2 := by
  unfold halt
  split
  · exact .refl h
  · exact (quietly_cancelPending h).trans (.note _ .previewHalted)

variable [Renderer G β]

omit [Journal G] in
theorem quietly_releaseRenderer : ∃ es, Quietly h es (releaseRenderer s h).2 := by
  rcases hr : s.renderer with _ | r
  · refine ⟨[], ?_⟩
    unfold releaseRenderer
    rw [hr]
    exact .refl h
  · exact ⟨_, .of_entered (entered_releaseRenderer h hr) (by simp [LogEntry.isQuiet])⟩

omit [Journal G] in
theorem quietly_teardown : ∃ es, Quietly h es (teardown s h).2 := by
  obtain ⟨es, hes⟩ :=
    quietly_releaseRenderer (s := (cancelPending s h).1) (cancelPending s h).2
  exact ⟨_, (quietly_cancelPending h).trans hes⟩

theorem quietly_dispose : ∃ es, Quietly h es (dispose s h).2 := by
  unfold dispose
  split
  · exact ⟨[], .refl h⟩
  · obtain ⟨es, hes⟩ := quietly_teardown (s := s) h
    exact ⟨_, hes.trans (.note _ .previewDisposed)⟩

theorem quietly_resize (width height : Nat) : ∃ es, Quietly h es (resize s width height h).2 := by
  by_cases hr : s.phase.isLive ∧ s.Resizes width height ∧ s.renderer.isSome
  · obtain ⟨r, hs⟩ := Option.isSome_iff_exists.1 hr.2.2
    obtain ⟨resized, -, hent⟩ := entered_resize_of_resizes h hr.1 hr.2.1 hs
    exact ⟨_, .of_entered hent (by simp [LogEntry.isQuiet])⟩
  · rw [resize_eq_pure s hr]
    exact ⟨[], .refl h⟩

/-- A load that succeeds enters a connection. -/
theorem quietly_load [Seconds ρ] (source : List Char) (width height : Nat)
    (connect : Shader.Assembly → Nat → Nat → StateM G (Except ConnectError β)) :
    ∃ es, Quietly h es (load s source width height (Logbook.connect connect) h).2 ∧
      ((load s source width height (Logbook.connect connect) h).1.1 = .ok () →
        ∃ n, .connected n ∈ es) := by
  unfold load
  split
  · exact ⟨[], .refl h, nofun⟩
  · obtain ⟨es, hes⟩ := quietly_teardown (s := s) h
    simp only [bind_apply]
    rcases Shader.Assembly.read source with e | ⟨a, remarks⟩
    · exact ⟨_, hes, nofun⟩
    · have hnoted := hes.trans
        (.of_entered (entered_noteAssembled (teardown s h).2 remarks) (by simp))
      simp only [bind_apply, Host.onGraphics_apply]
      generalize (noteAssembled remarks (teardown s h).2).2 = h₁ at hnoted ⊢
      rcases Logbook.connect_cases connect a (max width 1) (max height 1) h₁.graphics with
        ⟨r, world, hc⟩ | ⟨e, world, hc⟩
      · rw [hc]
        have hconnected : Quietly h₁ [.connected h₁.graphics.entries.length]
            ⟨⟨world, h₁.graphics.entries ++ [.connected h₁.graphics.entries.length]⟩, h₁.ticks,
              h₁.published⟩ := ⟨rfl, by simp [LogEntry.isQuiet], rfl⟩
        exact ⟨_, hnoted.trans (hconnected.trans (.note _ .previewReady)), fun _ => ⟨_,
          List.mem_append_right _ List.mem_cons_self⟩⟩
      · rw [hc]
        have hrefused : Quietly h₁ [.refused e]
            ⟨⟨world, h₁.graphics.entries ++ [.refused e]⟩, h₁.ticks, h₁.published⟩ :=
          ⟨rfl, by simp [LogEntry.isQuiet], rfl⟩
        exact ⟨_, hnoted.trans hrefused, nofun⟩

/-! ## What one operation does to the counts -/

/-- The snapshots that are due behind a frame. -/
def dueSnapshots {ρ β : Type} (s : Session ρ β) : List Snapshot :=
  if s.frameCount % max s.options.publishInterval 1 = 0 then
    [s.telemetry.snapshot s.width s.height] else []

omit [Renderer G β] in
theorem publishIfDue_published :
    (publishIfDue s h).2.published = h.published ++ s.dueSnapshots := by
  unfold publishIfDue dueSnapshots
  split
  · rfl
  · exact (List.append_nil _).symm

/-- An operation that made some entries left the counts as they were, or it was a tick that presented
a frame, and this one was counted, and published if it was due. -/
inductive Counts (s : Session ρ (Logged β)) (h : Host (Logbook G β)) (es : List (LogEntry β))
    (s' : Session ρ (Logged β)) (h' : Host (Logbook G β)) : Operation ρ β G → Prop where
  | still {op : Operation ρ β G} (presented : presented es = 0)
      (frameCount : s'.frameCount = s.frameCount)
      (totalFrames : s'.telemetry.totalFrames = s.telemetry.totalFrames)
      (published : h'.published = h.published) : Counts s h es s' h' op
  | frame {now : Nat} {today : Date} (presented : presented es = 1)
      (frameCount : s'.frameCount = s.frameCount + 1)
      (totalFrames : s'.telemetry.totalFrames = s.frameCount + 1)
      (published : h'.published = h.published ++ s'.dueSnapshots) :
      Counts s h es s' h' (.tick now today)

omit [Journal G] [Renderer G β] in
theorem counts_of_quietly {es : List (LogEntry β)} {s' : Session ρ (Logged β)}
    {h h' : Host (Logbook G β)} {op : Operation ρ β G} (hq : Quietly h es h')
    (hc : s'.frameCount = s.frameCount)
    (ht : s'.telemetry.totalFrames = s.telemetry.totalFrames) : Counts s h es s' h' op :=
  .still (presented_eq_zero_of_isQuiet hq.quiet) hc ht hq.published

/-- All uniforms among the entries are for the shader of the session and have its frame count, and
nothing was presented before they were written. -/
def WritesCount (s : Session ρ (Logged β)) (es : List (LogEntry β)) : Prop :=
  ∀ pre n block behind post, es = pre ++ .called n (.writeUniforms block behind) :: post →
    presented pre = 0 ∧ ∃ used, s.used = some used ∧
      (used.contains .frame → block.frame = min s.frameCount UniformBlock.maxFrame)

omit [Journal G] [Renderer G β] in
theorem writesCount_of_isQuiet {es : List (LogEntry β)} (hes : ∀ e ∈ es, e.isQuiet) :
    WritesCount s es := by
  intro pre n block behind post he
  have hq := hes (.called n (.writeUniforms block behind)) (by simp [he])
  cases hq

theorem quiet_afterDraw (now : Nat) (outcome : DrawOutcome) (hd : s.phase ≠ .disposed)
    (hp : s.pendingTick = none) {r : Logged β} (hr : s.renderer = some r) :
    ∃ es, (afterDraw s now outcome h).2.graphics.entries = h.graphics.entries ++ es ∧
      ∀ e ∈ es, e.isQuiet := by
  by_cases ho : outcome.fails
  · exact ⟨_, (afterDraw_of_fails h now ho hd hp hr).2.entries, by simp [LogEntry.isQuiet]⟩
  · refine ⟨[], ?_, by simp⟩
    rw [List.append_nil]
    exact (afterDraw_of_not_fails h now ho hp).2.2.1

theorem published_afterDraw (now : Nat) (outcome : DrawOutcome) (hd : s.phase ≠ .disposed)
    (hp : s.pendingTick = none) {r : Logged β} (hr : s.renderer = some r) :
    (afterDraw s now outcome h).2.published = h.published ++
      if outcome = .presented then (afterDraw s now outcome h).1.dueSnapshots else [] := by
  cases outcome with
  | presented =>
    simp only [afterDraw, bind_apply]
    rw [finishTick_of_eq_none _ _ now (by exact hp)]
    exact publishIfDue_published h
  | skipped =>
    simp only [afterDraw, bind_apply]
    rw [finishTick_of_eq_none _ _ now (by exact hp)]
    exact (List.append_nil _).symm
  | failed reason =>
    rw [(afterDraw_of_fails h now rfl hd hp hr).2.published]
    exact (List.append_nil _).symm

omit [Journal G] [Renderer G β] in
/-- Of the entries of a tick only those of its drawing can write uniforms. -/
theorem block_of_drawing_append {c : TickCalls β} {n m : Nat} {fs pre post : List (LogEntry β)}
    {block : UniformBlock} {behind : β} (hfs : ∀ e ∈ fs, e.isQuiet)
    (he : c.drawing.map (.called n) ++ fs =
      pre ++ .called m (.writeUniforms block behind) :: post) :
    block = c.block ∧ presented pre = 0 := by
  rcases append_eq_append_cons_cases he with ⟨l, hdrawing, -⟩ | ⟨l, -, hfs'⟩
  · exact c.block_of_drawing n hdrawing
  · cases hfs (.called m (.writeUniforms block behind)) (by simp [hfs'])

omit [Journal G] [Renderer G β] in
theorem writesCount_tick [Seconds ρ] {now : Nat} {today : Date} {used : Shader.UniformSet}
    {c : TickCalls β} {n : Nat} {fs : List (LogEntry β)} (hu : s.used = some used)
    (hb : c.block = s.frameBlock now today used) (hfs : ∀ e ∈ fs, e.isQuiet) :
    WritesCount s (c.drawing.map (.called n) ++ fs) := by
  intro pre m block behind post he
  obtain ⟨hblock, hpre⟩ := block_of_drawing_append hfs he
  refine ⟨hpre, used, hu, fun hc => ?_⟩
  rw [hblock, hb]
  exact if_pos hc

omit [Journal G] [Renderer G β] in
theorem totalFrames_drawing [Seconds ρ] (now : Nat) (today : Date) (used : Shader.UniformSet)
    (poll : Option TimerPoll) (r : Logged β) :
    (s.drawing now today used poll r).telemetry.totalFrames = s.telemetry.totalFrames := by
  have hinterval : (s.recordInterval now).telemetry.totalFrames = s.telemetry.totalFrames := by
    unfold recordInterval
    split <;> rfl
  have hgpu (t : Telemetry) (ms : Float) : (t.recordGpu ms).totalFrames = t.totalFrames := by
    unfold Telemetry.recordGpu
    split <;> rfl
  rw [← hinterval]
  unfold drawing withPoll
  rcases keptTime? poll with _ | ms
  · rfl
  · exact hgpu _ ms

theorem counts_tick [Seconds ρ] (now : Nat) (today : Date) (hs : Coherent s) :
    ∃ es, (tick s now today h).2.graphics.entries = h.graphics.entries ++ es ∧
      WritesCount s es ∧
        Counts s h es (tick s now today h).1 (tick s now today h).2 (.tick now today) := by
  by_cases ht : s.phase.isTicking ∧ s.pendingTick.isSome
  · obtain ⟨r, c, used, h', -, hu, -, hblock, -, -, hent, hrun⟩ :=
      entered_runTick h now today hs.toLoaded ht.1
    have hd : (s.drawing now today used (c.poll.map Prod.fst) ⟨r.number, c.drawn⟩).phase ≠
        .disposed := ne_disposed_of_isTicking ht.1
    obtain ⟨fs, hfs, hquiet⟩ := quiet_afterDraw h' now c.outcome hd rfl rfl
    have hpublished := published_afterDraw h' now c.outcome hd rfl rfl
    have hfst := afterDraw_fst h' now c.outcome hd rfl
    rw [tick_eq_runTick s now today ht.1 ht.2, hrun]
    refine ⟨c.drawing.map (.called r.number) ++ fs, ?_, writesCount_tick hu hblock hquiet, ?_⟩
    · rw [hfs, hent.entries, List.append_assoc]
    · have hcount : presented (c.drawing.map (.called r.number) ++ fs) =
          if c.outcome = .presented then 1 else 0 := by
        rw [presented_append, TickCalls.presented_drawing, presented_eq_zero_of_isQuiet hquiet,
          Nat.add_zero]
      have htotal := totalFrames_drawing (s := s) now today used (c.poll.map Prod.fst)
        ⟨r.number, c.drawn⟩
      rw [hent.published] at hpublished
      rw [hfst] at hpublished ⊢
      rcases ho : c.outcome with _ | _ | reason <;> rw [ho] at hpublished hcount
      · exact .frame hcount rfl rfl hpublished
      · exact .still hcount rfl htotal (hpublished.trans (List.append_nil _))
      · exact .still hcount rfl htotal (hpublished.trans (List.append_nil _))
  · rw [tick_eq_pure s now today ht]
    exact ⟨[], by simp, writesCount_of_isQuiet (by simp), .still rfl rfl rfl rfl⟩

/-- Both sessions counted and measured the same. -/
structure SameFigures {ρ β : Type} (s t : Session ρ β) : Prop where
  frameCount : t.frameCount = s.frameCount
  telemetry : t.telemetry = s.telemetry
  previousTick : t.clock.previousTick = s.clock.previousTick

omit [Journal G] [Renderer G β] in
theorem StepsTo.sameFigures {s t : Session ρ β} [Seconds ρ] {op : Operation ρ β G}
    (h : StepsTo s op t) (hop : op.KeepsCounts) : SameFigures s t := by
  cases h with
  | loaded => exact hop.elim
  | unloaded => exact hop.elim
  | ticked => exact hop.elim
  | @paused paused _ _ => exact ⟨rfl, rfl, by cases paused <;> rfl⟩
  | _ => exact ⟨rfl, rfl, rfl⟩

omit [Journal G] [Renderer G β] in
theorem StepsTo.used_eq {s t : Session ρ β} [Seconds ρ] {op : Operation ρ β G}
    (h : StepsTo s op t) (hop : op.isLoad = false) : t.used = s.used ∨ t.used = none := by
  cases h with
  | loaded => cases hop
  | unloaded => exact Or.inr rfl
  | disposed => exact Or.inr rfl
  | ticked _ _ _ _ _ outcome =>
    cases outcome with
    | failed => exact Or.inr rfl
    | _ => exact Or.inl rfl
  | _ => exact Or.inl rfl

theorem quietly_operate [Seconds ρ] {op : Operation ρ β G} (hop : op.KeepsCounts) :
    ∃ es, Quietly h es (operate s op.logged h).2 := by
  cases op with
  | load => exact hop.elim
  | tick => exact hop.elim
  | start => exact ⟨_, quietly_start h⟩
  | setPaused paused time => exact ⟨_, quietly_setPaused h paused time⟩
  | halt => exact ⟨_, quietly_halt h⟩
  | resize width height => exact quietly_resize h width height
  | requestSize width height => exact ⟨_, .refl h⟩
  | pointerMoved x y => exact ⟨_, .refl h⟩
  | pointerPressed x y => exact ⟨_, .refl h⟩
  | dispose => exact quietly_dispose h

/-- An operation other than a tick enters a connection, if it is a load that succeeds, or it is quiet
and leaves the figures alone. -/
theorem quietly_or_connected [Seconds ρ] {op : Operation ρ β G}
    (hop : ∀ now today, op ≠ .tick now today) (hs : Coherent s) :
    ∃ es, (operate s op.logged h).2.graphics.entries = h.graphics.entries ++ es ∧
      ((∃ n, .connected n ∈ es) ∨
        Quietly h es (operate s op.logged h).2 ∧ SameFigures s (operate s op.logged h).1 ∧
          ((operate s op.logged h).1.used = s.used ∨ (operate s op.logged h).1.used = none)) := by
  have hstep := stepsTo_operate h op.logged hs
  by_cases hkeeps : op.KeepsCounts
  · obtain ⟨es, hes⟩ := quietly_operate (s := s) h hkeeps
    refine ⟨es, hes.entries, Or.inr ⟨hes,
      hstep.sameFigures (Operation.keepsCounts_logged.2 hkeeps), hstep.used_eq ?_⟩⟩
    cases op <;> first | rfl | exact hkeeps.elim
  · cases op with
    | tick now today => exact absurd rfl (hop now today)
    | load source width height connect =>
      obtain ⟨es, hes, hconnected⟩ := quietly_load (s := s) h source width height connect
      refine ⟨es, hes.entries, ?_⟩
      by_cases hd : s.phase = .disposed
      · right
        have hsame : operate s (Operation.load source width height connect).logged h = (s, h) := by
          simp only [Operation.logged, operate, bind_apply]
          rw [load_of_disposed s source width height _ hd]
          rfl
        rw [load_of_disposed s source width height _ hd] at hes
        rw [hsame]
        exact ⟨hes, ⟨rfl, rfl, rfl⟩, Or.inl rfl⟩
      · rcases load_frame s h source width height (Logbook.connect connect) hd with
          ⟨a, r, hl⟩ | ⟨e, hl⟩
        · exact Or.inl (hconnected (by rw [hl]))
        · right
          simp only [Operation.logged, operate, bind_apply, pure_apply, hl]
          exact ⟨hes, ⟨rfl, rfl, rfl⟩, Or.inr rfl⟩
    | _ => exact absurd trivial hkeeps

/-- An operation that is not a load that succeeds counts what it presents. -/
theorem counts_operate [Seconds ρ] (op : Operation ρ β G) (hs : Coherent s) :
    ∃ es, (operate s op.logged h).2.graphics.entries = h.graphics.entries ++ es ∧
      ((∃ n, .connected n ∈ es) ∨
        WritesCount s es ∧ Counts s h es (operate s op.logged h).1 (operate s op.logged h).2 op ∧
          ((operate s op.logged h).1.used = s.used ∨ (operate s op.logged h).1.used = none)) := by
  by_cases htick : ∃ now today, op = .tick now today
  · obtain ⟨now, today, rfl⟩ := htick
    obtain ⟨es, hes, hwrites, hcounts⟩ := counts_tick h now today hs
    exact ⟨es, hes, Or.inr ⟨hwrites, hcounts,
      (stepsTo_operate h (.tick now today) hs).used_eq rfl⟩⟩
  · obtain ⟨es, hes, hconnected | ⟨hquiet, hsame, hu⟩⟩ :=
      quietly_or_connected h (fun now today ht => htick ⟨now, today, ht⟩) hs
    · exact ⟨es, hes, Or.inl hconnected⟩
    · exact ⟨es, hes, Or.inr ⟨writesCount_of_isQuiet hquiet.quiet,
        counts_of_quietly hquiet hsame.frameCount (by rw [hsame.telemetry]), hu⟩⟩

/-! ## What a run does to the counts -/

section Run

variable [Seconds ρ] {s₁ : Session ρ (Logged β)} {h₁ : Host (Logbook G β)}
variable {ops : List (Operation ρ β G)}

/-- The tick of a run that presented its `n`th frame published the snapshot, at the size of the
session at that tick and behind the given ones. -/
def PublishedAt (s₁ : Session ρ (Logged β)) (h₁ : Host (Logbook G β)) (ops : List (Operation ρ β G))
    (n : Nat) (earlier : List Snapshot) (snapshot : Snapshot) : Prop :=
  ∃ before now today after, ops = before ++ .tick now today :: after ∧
    ∃ t g t' g', run s₁ (before.map .logged) h₁ = (t, g) ∧ tick t now today g = (t', g') ∧
      t.frameCount + 1 = n ∧ t'.frameCount = n ∧
      g.published = h₁.published ++ earlier ∧ g'.published = g.published ++ [snapshot] ∧
      snapshot.totalFrames = n ∧ snapshot.width = t'.width ∧ snapshot.height = t'.height

theorem PublishedAt.append {n : Nat} {earlier : List Snapshot} {snapshot : Snapshot}
    (h : PublishedAt s₁ h₁ ops n earlier snapshot) (more : List (Operation ρ β G)) :
    PublishedAt s₁ h₁ (ops ++ more) n earlier snapshot := by
  obtain ⟨before, now, today, after, rfl, htick⟩ := h
  exact ⟨before, now, today, after ++ more, by simp, htick⟩

/-- The counts behind a run that made the given entries. -/
structure Counted (s₁ : Session ρ (Logged β)) (h₁ : Host (Logbook G β))
    (ops : List (Operation ρ β G)) (entries : List (LogEntry β)) (s : Session ρ (Logged β))
    (h : Host (Logbook G β)) : Prop where
  options : s.options = s₁.options
  used : s.used = s₁.used ∨ s.used = none
  frameCount : s.frameCount = presented entries
  totalFrames : s.telemetry.totalFrames = presented entries
  published : ∃ snapshots, h.published = h₁.published ++ snapshots ∧
    snapshots.length = presented entries / max s₁.options.publishInterval 1 ∧
    ∀ k snapshot, snapshots[k]? = some snapshot →
      PublishedAt s₁ h₁ ops ((k + 1) * max s₁.options.publishInterval 1) (snapshots.take k) snapshot
  writes : ∀ pre n block behind post,
    entries = pre ++ .called n (.writeUniforms block behind) :: post →
      ∃ used, s₁.used = some used ∧
        (used.contains .frame → block.frame = min (presented pre) UniformBlock.maxFrame)

theorem counted_nil (hc : s₁.frameCount = 0) (ht : s₁.telemetry.totalFrames = 0) :
    Counted s₁ h₁ [] [] s₁ h₁ where
  options := rfl
  used := Or.inl rfl
  frameCount := hc
  totalFrames := ht
  published := ⟨[], by simp, by simp [presented], by simp⟩
  writes := by simp

variable {s : Session ρ (Logged β)} {h : Host (Logbook G β)} {op : Operation ρ β G}
variable {entries es : List (LogEntry β)}

theorem Counted.writes_append (hc : Counted s₁ h₁ ops entries s h) (hw : WritesCount s es)
    {pre post : List (LogEntry β)} {n : Nat} {block : UniformBlock} {behind : β}
    (he : entries ++ es = pre ++ .called n (.writeUniforms block behind) :: post) :
    ∃ used, s₁.used = some used ∧
      (used.contains .frame → block.frame = min (presented pre) UniformBlock.maxFrame) := by
  rcases append_eq_append_cons_cases he with ⟨l, hentries, -⟩ | ⟨l, hpre, hes⟩
  · exact hc.writes _ _ _ _ _ hentries
  · obtain ⟨hzero, used, hu, hframe⟩ := hw _ _ _ _ _ hes
    refine ⟨used, ?_, ?_⟩
    · rcases hc.used with hs | hs <;> rw [hs] at hu
      · exact hu
      · cases hu
    · rw [hpre, presented_append, hzero, Nat.add_zero, ← hc.frameCount]
      exact hframe

theorem Counted.published_append (hrun : run s₁ (ops.map .logged) h₁ = (s, h))
    (hc : Counted s₁ h₁ ops entries s h)
    (hop : Counts s h es (operate s op.logged h).1 (operate s op.logged h).2 op)
    (ho : (operate s op.logged h).1.options = s.options) :
    ∃ snapshots, (operate s op.logged h).2.published = h₁.published ++ snapshots ∧
      snapshots.length = presented (entries ++ es) / max s₁.options.publishInterval 1 ∧
      ∀ k snapshot, snapshots[k]? = some snapshot →
        PublishedAt s₁ h₁ (ops ++ [op]) ((k + 1) * max s₁.options.publishInterval 1)
          (snapshots.take k) snapshot := by
  obtain ⟨snapshots, hpub, hlen, hat⟩ := hc.published
  cases hop with
  | still hp _ _ hpublished =>
    refine ⟨snapshots, hpublished.trans hpub, ?_, fun k snapshot hk => (hat k snapshot hk).append _⟩
    rw [presented_append, hp, Nat.add_zero]
    exact hlen
  | @frame now today hp hcount htotal hpublished =>
    rw [presented_append, hp, ← hc.frameCount]
    rw [← hc.frameCount] at hlen
    rcases htick : operate s (Operation.tick now today).logged h with ⟨s', h'⟩
    rw [htick] at hcount htotal hpublished ho
    rw [dueSnapshots, hcount, ho, hc.options] at hpublished
    by_cases hdue : (s.frameCount + 1) % max s₁.options.publishInterval 1 = 0
    · rw [if_pos hdue] at hpublished
      have hdvd := Nat.dvd_of_mod_eq_zero hdue
      have hlen' := Nat.succ_div_of_dvd hdvd
      have hnew : PublishedAt s₁ h₁ (ops ++ [.tick now today])
          ((snapshots.length + 1) * max s₁.options.publishInterval 1) snapshots
          (s'.telemetry.snapshot s'.width s'.height) := by
        rw [hlen, ← hlen', Nat.div_mul_cancel hdvd]
        exact ⟨ops, now, today, [], rfl, s, h, s', h', hrun, htick, rfl, hcount, hpub, hpublished,
          htotal, rfl, rfl⟩
      refine ⟨snapshots ++ [s'.telemetry.snapshot s'.width s'.height], ?_, ?_, ?_⟩
      · rw [hpublished, hpub, List.append_assoc]
      · rw [List.length_append, List.length_singleton, hlen, hlen']
      · intro k snapshot hk
        rcases Nat.lt_trichotomy k snapshots.length with hlt | rfl | hgt
        · rw [List.getElem?_append_left hlt] at hk
          rw [List.take_append_of_le_length (Nat.le_of_lt hlt)]
          exact (hat k snapshot hk).append _
        · rw [List.getElem?_concat_length] at hk
          rw [List.take_left, ← Option.some.inj hk]
          exact hnew
        · rw [List.getElem?_eq_none (by rw [List.length_append]; exact hgt)] at hk
          cases hk
    · rw [if_neg hdue, List.append_nil] at hpublished
      refine ⟨snapshots, hpublished.trans hpub, ?_, fun k snapshot hk => (hat k snapshot hk).append _⟩
      rw [hlen, Nat.succ_div_of_not_dvd fun hd => hdue (Nat.mod_eq_zero_of_dvd hd)]

theorem counted_operate (hs : Coherent s) (hrun : run s₁ (ops.map .logged) h₁ = (s, h))
    (hc : Counted s₁ h₁ ops entries s h) (hw : WritesCount s es)
    (hop : Counts s h es (operate s op.logged h).1 (operate s op.logged h).2 op)
    (hu : (operate s op.logged h).1.used = s.used ∨ (operate s op.logged h).1.used = none) :
    Counted s₁ h₁ (ops ++ [op]) (entries ++ es) (operate s op.logged h).1
      (operate s op.logged h).2 := by
  have ho := (stepsTo_operate h op.logged hs).sameSetup.options
  have hboth : (operate s op.logged h).1.frameCount = presented (entries ++ es) ∧
      (operate s op.logged h).1.telemetry.totalFrames = presented (entries ++ es) := by
    rw [presented_append]
    cases hop with
    | still hp hcount htotal _ =>
      rw [hp, hcount, htotal, hc.frameCount, hc.totalFrames]
      exact ⟨rfl, rfl⟩
    | frame hp hcount htotal _ =>
      rw [hp, hcount, htotal, hc.frameCount]
      exact ⟨rfl, rfl⟩
  refine ⟨ho.trans hc.options, ?_, hboth.1, hboth.2, hc.published_append hrun hop ho,
    fun _ _ _ _ _ => hc.writes_append hw⟩
  rcases hu with hu | hu
  · rw [hu]
    exact hc.used
  · exact Or.inr hu

/-- The log only grows. -/
theorem exists_entries_run {s : Session ρ (Logged β)} (h : Host (Logbook G β))
    (ops : List (Operation ρ β G)) (hs : Coherent s) : ∃ es,
    (run s (ops.map .logged) h).2.graphics.entries = h.graphics.entries ++ es := by
  induction ops generalizing s h with
  | nil => exact ⟨[], (List.append_nil _).symm⟩
  | cons op ops ih =>
    obtain ⟨es, hes, -⟩ := counts_operate h op hs
    obtain ⟨fs, hfs⟩ := ih (operate s op.logged h).2 (coherent_operate h op.logged hs)
    refine ⟨es ++ fs, ?_⟩
    rw [List.map_cons, run_cons_apply, hfs, hes, List.append_assoc]

/-- A run counts, unless a load succeeds in it. -/
theorem counted_run (h₁ : Host (Logbook G β)) (hs₁ : Coherent s₁) (hc₁ : s₁.frameCount = 0)
    (ht₁ : s₁.telemetry.totalFrames = 0) (ops : List (Operation ρ β G)) :
    ∃ entries, (run s₁ (ops.map .logged) h₁).2.graphics.entries = h₁.graphics.entries ++ entries ∧
      ((∃ n, .connected n ∈ entries) ∨ Counted s₁ h₁ ops entries (run s₁ (ops.map .logged) h₁).1
        (run s₁ (ops.map .logged) h₁).2) := by
  induction ops using List.reverseRecOn with
  | nil => exact ⟨[], by simp, Or.inr (counted_nil hc₁ ht₁)⟩
  | append_singleton ops op ih =>
    obtain ⟨entries, hentries, hcounted⟩ := ih
    have hs := coherent_run h₁ (ops.map Operation.logged) hs₁
    rw [List.map_append, run_append_apply]
    rcases hrun : run s₁ (ops.map .logged) h₁ with ⟨s, h⟩
    rw [hrun] at hentries hcounted hs
    obtain ⟨es, hes, hop⟩ := counts_operate h op hs
    refine ⟨entries ++ es, ?_, ?_⟩
    · rw [← List.append_assoc, ← hentries]
      exact hes
    · rcases hcounted with ⟨n, hn⟩ | hcounted
      · exact Or.inl ⟨n, List.mem_append_left _ hn⟩
      rcases hop with ⟨n, hn⟩ | ⟨hw, hop, hu⟩
      · exact Or.inl ⟨n, List.mem_append_right _ hn⟩
      · exact Or.inr (counted_operate hs hrun hcounted hw hop hu)

/-- From a load that succeeded on, as long as no other does, the frame count of the session and the
total of its telemetry are the number of draws that presented a frame.  Of these every so many
published a snapshot, with this number and the size at that tick, and no other snapshots were
published.  Each time the uniforms were written, a shader that reads the frame number got the number
of frames presented so far, or the largest that there is.  An operation that presented no frame
changed none of the counts. -/
theorem frames_counted {s s₁ s' : Session ρ (Logged β)} {h h₁ h' : Host (Logbook G β)}
    {source : List Char} {width height : Nat}
    {connect : Shader.Assembly → Nat → Nat → StateM G (Except ConnectError β)}
    (hload : load s source width height (Logbook.connect connect) h = ((.ok (), s₁), h₁))
    (ops : List (Operation ρ β G)) (hrun : run s₁ (ops.map .logged) h₁ = (s', h'))
    {entries : List (LogEntry β)} (hentries : h'.graphics.entries = h₁.graphics.entries ++ entries)
    (hlast : ∀ n, .connected n ∉ entries) :
    s'.frameCount = presented entries ∧ s'.telemetry.totalFrames = presented entries ∧
      (∃ snapshots, h'.published = h₁.published ++ snapshots ∧
        snapshots.length = presented entries / max s₁.options.publishInterval 1 ∧
        ∀ k snapshot, snapshots[k]? = some snapshot →
          PublishedAt s₁ h₁ ops ((k + 1) * max s₁.options.publishInterval 1) (snapshots.take k)
            snapshot) ∧
      (∀ pre n block behind post,
        entries = pre ++ .called n (.writeUniforms block behind) :: post →
          ∃ used, s₁.used = some used ∧
            (used.contains .frame → block.frame = min (presented pre) UniformBlock.maxFrame)) ∧
      ∀ before op after, ops = before ++ op :: after → ∀ t g t' g',
        run s₁ (before.map .logged) h₁ = (t, g) → operate t op.logged g = (t', g') →
          ∃ es, g'.graphics.entries = g.graphics.entries ++ es ∧ Counts t g es t' g' op := by
  obtain ⟨-, a, -, r, -, rfl⟩ := load_eq_ok hload
  have hs₁ : Coherent (s.unloaded.withShader a (max width 1) (max height 1) r) :=
    coherent_of_ready rfl rfl rfl rfl
  obtain ⟨entries', hentries', hcounted⟩ := counted_run h₁ hs₁ rfl rfl ops
  rw [hrun] at hentries' hcounted
  obtain rfl := List.append_cancel_left (hentries.symm.trans hentries')
  have hc := hcounted.resolve_left fun ⟨n, hn⟩ => hlast n hn
  refine ⟨hc.frameCount, hc.totalFrames, hc.published, hc.writes, ?_⟩
  rintro before op after rfl t g t' g' hbefore hop
  have ht : Coherent t := by
    have hall := coherent_run h₁ (before.map Operation.logged) hs₁
    rwa [hbefore] at hall
  obtain ⟨es₁, he₁⟩ := exists_entries_run h₁ before hs₁
  obtain ⟨es, hes, hcounts⟩ := counts_operate g op ht
  have ht' := coherent_operate g op.logged ht
  rw [hop] at hes hcounts ht'
  obtain ⟨es₂, he₂⟩ := exists_entries_run g' after ht'
  refine ⟨es, hes, (hcounts.resolve_left fun ⟨n, hn⟩ => hlast n ?_).2.1⟩
  -- the entries of the run are those before the operation, those of it, and those behind it
  rw [List.map_append, run_append_apply, hbefore, List.map_cons, run_cons_apply, hop] at hrun
  rw [hbefore] at he₁
  rw [hrun, hes, he₁, hentries, List.append_assoc, List.append_assoc] at he₂
  rw [List.append_cancel_left he₂]
  simp [hn]

end Run

/-- A new session that publishes every second frame. -/
def countingSession : Session Float (Logged ScriptedRenderer) :=
  (create? { PreviewOptions.default with publishInterval := 2 }).get rfl

/-- Of five ticks the second draws nothing; the preview is paused, halted and resized on the way. -/
def publishingPreview : List (Operation Float ScriptedRenderer Recording) :=
  [.start, .tick 0 .zero, .tick 16000000 .zero, .setPaused true 1.5, .tick 33000000 .zero, .halt,
    .resize 640 480, .start, .tick 50000000 .zero, .setPaused false 1.5, .tick 66000000 .zero]

/-- The answer, the session and the host behind a load. -/
def loadedCounting :
    (Except LoadError Unit × Session Float (Logged ScriptedRenderer)) ×
      Host (Logbook Recording ScriptedRenderer) :=
  load countingSession blankShader 320 240 (Logbook.connect (ScriptedRenderer.connect
    (.ok ⟨0, none, [.presented, .skipped], 0⟩))) blankHost

/-- The number of connections in the log of a host. -/
def connections (h : Host (Logbook Recording ScriptedRenderer)) : Nat :=
  h.graphics.entries.countP fun e => e matches .connected _

theorem not_connected_of_connections_eq {h h' : Host (Logbook Recording ScriptedRenderer)}
    {entries : List (LogEntry ScriptedRenderer)}
    (hentries : h'.graphics.entries = h.graphics.entries ++ entries)
    (hsame : connections h' = connections h) (n : Nat) : .connected n ∉ entries := by
  intro hn
  have hpos : 0 < entries.countP fun e => e matches .connected _ :=
    List.countP_pos_iff.2 ⟨_, hn, rfl⟩
  unfold connections at hsame
  rw [hentries, List.countP_append] at hsame
  omega

theorem frames_counted_publishingPreview :
    ∃ (s₁ s' : Session Float (Logged ScriptedRenderer))
      (h₁ h' : Host (Logbook Recording ScriptedRenderer))
      (entries : List (LogEntry ScriptedRenderer)) (snapshots : List Snapshot),
      loadedCounting = ((.ok (), s₁), h₁) ∧ run s₁ (publishingPreview.map .logged) h₁ = (s', h') ∧
      h'.graphics.entries = h₁.graphics.entries ++ entries ∧ (∀ n, .connected n ∉ entries) ∧
      presented entries = 4 ∧ s'.telemetry.totalFrames = 4 ∧
      h'.published = h₁.published ++ snapshots ∧ snapshots.length = 2 := by
  have hplayed : loadedCounting.1.1 = .ok () ∧ connections loadedCounting.2 = 1 ∧
      connections (run loadedCounting.1.2 (publishingPreview.map .logged) loadedCounting.2).2 = 1 ∧
      (run loadedCounting.1.2 (publishingPreview.map .logged) loadedCounting.2).1.frameCount = 4 ∧
      loadedCounting.1.2.options.publishInterval = 2 := by decide +kernel
  -- from here on nothing is to be evaluated
  rcases hload : loadedCounting with ⟨⟨answer, s₁⟩, h₁⟩
  rw [hload] at hplayed
  simp only at hplayed
  rcases hrun : run s₁ (publishingPreview.map .logged) h₁ with ⟨s', h'⟩
  rw [hrun] at hplayed
  obtain ⟨rfl, hbefore, hbehind, hcount, hinterval⟩ := hplayed
  have hs₁ : Coherent s₁ := by
    obtain ⟨-, a, -, r, -, rfl⟩ := load_eq_ok hload
    exact coherent_of_ready rfl rfl rfl rfl
  obtain ⟨entries, hentries⟩ := exists_entries_run h₁ publishingPreview hs₁
  rw [hrun] at hentries
  have hlast := not_connected_of_connections_eq hentries (hbehind.trans hbefore.symm)
  obtain ⟨hframes, htotal, ⟨snapshots, hpublished, hlength, -⟩, -⟩ :=
    frames_counted hload publishingPreview hrun hentries hlast
  have hpresented : presented entries = 4 := hframes.symm.trans hcount
  rw [hpresented] at htotal hlength
  rw [hinterval] at hlength
  exact ⟨s₁, s', h₁, h', entries, snapshots, rfl, hrun, hentries, hlast, hpresented, htotal,
    hpublished, hlength⟩

end Session

end ShaderPreview
