import ShaderPreview.Proofs.Preview.Counters
import ShaderPreview.Proofs.Preview.Size

/-!
# What a shader reads

The uniform block of a session is written by loads, by changes of size and by every tick, and each of
them writes only what the shader uses.  A slot that the shader does not use is zero throughout
(`Clear`), so that what a tick writes depends on nothing but the uniforms of the shader, the size
and the inputs of this tick (`frameBlock_eq_showing`).  Every block in the log of a run is of this
kind, for the last shader that was loaded before.
-/

namespace ShaderPreview

namespace UniformBlock

/-- The block in which a shader that uses the given uniforms reads a size and the inputs of a
frame. -/
def showing (used : Shader.UniformSet) (r : Resolution) (i : FrameInputs) : UniformBlock where
  resolution := r
  time := if used.contains .time then i.elapsed else 0
  timeDelta := if used.contains .timeDelta then i.delta else 0
  frame := if used.contains .frame then min i.frame maxFrame else 0
  mouse := if used.contains .mouse then i.pointer else .zero
  date := if used.contains .date then i.date else .zero

/-- The words between the frame number and the pointer. -/
def padding (b : UniformBlock) : List UInt32 := (b.words.drop 6).take 2

/-- The values of a frame that the given uniforms leave out are zero. -/
structure ClearOutside (used : Shader.UniformSet) (b : UniformBlock) : Prop where
  time : ¬ used.contains .time → b.time = 0
  timeDelta : ¬ used.contains .timeDelta → b.timeDelta = 0
  frame : ¬ used.contains .frame → b.frame = 0
  mouse : ¬ used.contains .mouse → b.mouse = .zero
  date : ¬ used.contains .date → b.date = .zero

variable {used : Shader.UniformSet} {b : UniformBlock}

theorem clearOutside_zero (used : Shader.UniformSet) : zero.ClearOutside used :=
  ⟨fun _ => rfl, fun _ => rfl, fun _ => rfl, fun _ => rfl, fun _ => rfl⟩

theorem ClearOutside.writeResolution (hb : b.ClearOutside used) (width height : Nat) :
    (b.writeResolution used width height).ClearOutside used := by
  unfold UniformBlock.writeResolution
  split
  · exact ⟨hb.time, hb.timeDelta, hb.frame, hb.mouse, hb.date⟩
  · exact hb

theorem ClearOutside.writeFrame (hb : b.ClearOutside used) (i : FrameInputs) :
    (b.writeFrame used i).ClearOutside used where
  time hn := (if_neg hn).trans (hb.time hn)
  timeDelta hn := (if_neg hn).trans (hb.timeDelta hn)
  frame hn := (if_neg hn).trans (hb.frame hn)
  mouse hn := (if_neg hn).trans (hb.mouse hn)
  date hn := (if_neg hn).trans (hb.date hn)

/-- Of what was written before, only the size is left. -/
theorem ClearOutside.writeFrame_eq_showing (hb : b.ClearOutside used) (i : FrameInputs) :
    b.writeFrame used i = .showing used b.resolution i := by
  have slot {α : Type} {u : Shader.Uniform} {new old none : α}
      (h : ¬ used.contains u → old = none) :
      (if used.contains u then new else old) = if used.contains u then new else none := by
    split
    · rfl
    · exact h ‹_›
  simp only [UniformBlock.writeFrame, showing, slot hb.time, slot hb.timeDelta, slot hb.frame,
    slot hb.mouse, slot hb.date]

end UniformBlock

namespace FrameInputs

/-- The inputs before the first frame. -/
def zero : FrameInputs := ⟨0, 0, 0, .zero, .zero⟩

end FrameInputs

namespace Session

/-! ## Slots that are not used -/

section Clear

variable {ρ β G : Type} {s t : Session ρ β}

/-- If there is a shader, what it does not use is zero in the uniform block. -/
def Clear (s : Session ρ β) : Prop := ∀ used ∈ s.used, s.block.ClearOutside used

theorem clear_of_used_eq_none (hu : s.used = none) : Clear s := by
  intro used hused
  rw [hu] at hused
  cases hused

theorem Clear.congr (hs : Clear s) (hu : t.used = s.used) (hb : t.block = s.block) : Clear t := by
  intro used hused
  rw [hb]
  exact hs used (hu ▸ hused)

theorem clear_withSize (hs : Clear s) (width height : Nat) : Clear (s.withSize width height) := by
  intro used (hused : s.used = some used)
  simp only [withSize, hused]
  exact (hs used hused).writeResolution width height

theorem clear_withRequestedSize (hs : Clear s) : Clear s.withRequestedSize := by
  rcases hn : s.sizeToApply with _ | ⟨width, height⟩
  · rw [withRequestedSize_of_eq_none hn]
    exact hs.congr rfl rfl
  · rw [withRequestedSize_of_eq_some hn]
    exact (clear_withSize hs width height).congr rfl rfl

variable [Seconds ρ]

theorem clear_drawing (hs : Clear s) (now : Nat) (today : Date) {used : Shader.UniformSet}
    (hu : s.used = some used) (poll : Option TimerPoll) (r : β) :
    Clear (s.drawing now today used poll r) := by
  intro used' (hused' : s.used = some used')
  obtain rfl := Option.some.inj (hu.symm.trans hused')
  exact (clear_withRequestedSize hs used hu).writeFrame _

omit [Seconds ρ] in
theorem clear_drawn (hs : Clear s) (now token : Nat) (outcome : DrawOutcome) :
    Clear (s.drawn now token outcome) := by
  cases outcome with
  | failed reason => exact clear_of_used_eq_none rfl
  | _ => exact hs.congr rfl rfl

theorem clear_withShader (a : Shader.Assembly) (width height : Nat) (r : β) :
    Clear (s.withShader a width height r) := by
  rintro used ⟨⟩
  exact (UniformBlock.clearOutside_zero _).writeResolution width height

theorem StepsTo.clear {op : Operation ρ β G} (h : StepsTo s op t) (hs : Clear s) : Clear t := by
  cases h with
  | loaded hd a r => exact clear_withShader a _ _ r
  | unloaded hd => exact clear_of_used_eq_none rfl
  | resized hl hz r => exact (clear_withSize hs _ _).congr rfl rfl
  | ticked ht hp hu poll r outcome token =>
    exact clear_drawn (clear_drawing hs _ _ hu poll r) _ token outcome
  | disposed hd => exact clear_of_used_eq_none rfl
  | _ => exact hs.congr rfl rfl

theorem clear_run [Renderer G β] [Journal G] (h : Host G) (ops : List (Operation ρ β G))
    (hc : Coherent s) (hs : Clear s) : Clear (run s ops h).1 := by
  refine (run_induction (P := fun t _ => Coherent t ∧ Clear t) ops ?_ ⟨hc, hs⟩).2
  rintro op - t h ⟨ht, hst⟩
  exact ⟨coherent_operate h op ht, (stepsTo_operate h op ht).clear hst⟩

theorem Reachable.clear [Renderer G β] [Journal G] (hs : Reachable G s) : Clear s := by
  obtain ⟨options, s₀, ops, h, hcreate, rfl⟩ := hs
  exact clear_run h ops (coherent_of_create? hcreate)
    (clear_of_used_eq_none (create?_frame hcreate).2.2.1)

/-- What a tick writes is told by the shader, the size at which it draws, and its inputs. -/
theorem frameBlock_eq_showing {used : Shader.UniformSet} (hz : SizeShown s) (hs : Clear s)
    (hu : s.used = some used) (now : Nat) (today : Date) :
    s.frameBlock now today used =
      .showing used (.ofSize s.nextSize.1 s.nextSize.2)
        (s.frameInputs (s.clock.advance now).1 (s.clock.advance now).2.1 today) := by
  have hblock := clear_withRequestedSize hs used hu
  rw [← (hz.frameBlock hu now today).2.2]
  exact hblock.writeFrame_eq_showing _

/-- A load that succeeds leaves nothing of earlier shaders in the uniform block. -/
theorem block_of_load [Renderer G β] [Journal G] {h h' : Host G} {source : List Char}
    {width height : Nat} {connect : Shader.Assembly → Nat → Nat → StateM G (Except ConnectError β)}
    (hl : load s source width height connect h = ((.ok (), t), h')) :
    ∃ a remarks, Shader.Assembly.read source = .ok (a, remarks) ∧
      t.block = .showing a.uniforms (.ofSize (max width 1) (max height 1)) .zero := by
  obtain ⟨-, a, remarks, r, ha, rfl⟩ := load_eq_ok hl
  refine ⟨a, remarks, ha, ?_⟩
  have hr := Shader.Assembly.contains_resolution ha
  simp [withShader, UniformBlock.writeResolution, UniformBlock.showing, hr, UniformBlock.zero,
    Resolution.ofSize, FrameInputs.zero]

end Clear

/-! ## The entries of an operation -/

section Entries

variable {ρ β G : Type} [Seconds ρ] {s : Session ρ (Logged β)}

/-- Uniforms among the entries of an operation were written by a tick, with its block, and nothing was
presented before they were. -/
def WritesFrame (s : Session ρ (Logged β)) (op : Operation ρ β G) (es : List (LogEntry β)) : Prop :=
  ∀ pre n block behind post, es = pre ++ .called n (.writeUniforms block behind) :: post →
    presented pre = 0 ∧ ∃ now today used, op = .tick now today ∧ s.used = some used ∧
      block = s.frameBlock now today used

theorem writesFrame_of_isQuiet {es : List (LogEntry β)} (op : Operation ρ β G)
    (hes : ∀ e ∈ es, e.isQuiet) : WritesFrame s op es := by
  intro pre n block behind post he
  cases hes (.called n (.writeUniforms block behind)) (by simp [he])

variable [Renderer G β] [Journal G] (h : Host (Logbook G β))

theorem writesFrame_tick (now : Nat) (today : Date) (hs : Coherent s) :
    ∃ es, (tick s now today h).2.graphics.entries = h.graphics.entries ++ es ∧
      WritesFrame s (.tick now today : Operation ρ β G) es := by
  by_cases ht : s.phase.isTicking ∧ s.pendingTick.isSome
  · obtain ⟨r, c, used, h', -, hu, -, hblock, -, -, hent, hrun⟩ :=
      entered_runTick h now today hs.toLoaded ht.1
    obtain ⟨fs, hfs, hquiet⟩ := quiet_afterDraw
      (s := s.drawing now today used (c.poll.map Prod.fst) ⟨r.number, c.drawn⟩) h' now c.outcome
      (ne_disposed_of_isTicking ht.1) rfl rfl
    rw [tick_eq_runTick s now today ht.1 ht.2, hrun]
    refine ⟨c.drawing.map (.called r.number) ++ fs, by rw [hfs, hent.entries, List.append_assoc], ?_⟩
    intro pre n block behind post he
    obtain ⟨rfl, hpre⟩ := block_of_drawing_append hquiet he
    exact ⟨hpre, now, today, used, rfl, hu, hblock⟩
  · rw [tick_eq_pure s now today ht]
    exact ⟨[], (List.append_nil _).symm, by simp [WritesFrame]⟩

/-- Only ticks write uniforms, and what is presented is counted until the next load. -/
theorem writesFrame_operate (op : Operation ρ β G) (hs : Coherent s) :
    ∃ es, (operate s op.logged h).2.graphics.entries = h.graphics.entries ++ es ∧
      WritesFrame s op es ∧
      (¬ op.isLoad →
        (operate s op.logged h).1.frameCount = s.frameCount + presented es) := by
  by_cases hop : op.KeepsCounts
  · obtain ⟨es, hes⟩ := quietly_operate (s := s) h hop
    have hcount := ((stepsTo_operate h op.logged hs).sameFigures
      (Operation.keepsCounts_logged.2 hop)).frameCount
    refine ⟨es, hes.entries, writesFrame_of_isQuiet op hes.quiet, fun _ => ?_⟩
    rw [presented_eq_zero_of_isQuiet hes.quiet]
    exact hcount
  · cases op with
    | tick now today =>
      obtain ⟨es, hes, -, hcounts⟩ := counts_tick h now today hs
      obtain ⟨es', hes', hwrites⟩ := writesFrame_tick h now today hs
      obtain rfl := List.append_cancel_left (hes.symm.trans hes')
      refine ⟨es, hes, hwrites, fun _ => ?_⟩
      cases hcounts with
      | still hp hcount => rw [hp]; exact hcount
      | frame hp hcount => rw [hp]; exact hcount
    | load source width height connect =>
      obtain ⟨es, hes, -⟩ := quietly_load (s := s) h source width height connect
      exact ⟨es, hes.entries, writesFrame_of_isQuiet _ hes.quiet, fun hn => absurd rfl hn⟩
    | _ => exact absurd trivial hop

end Entries

/-! ## The writes of a run -/

section Run

variable {ρ β G : Type} [Seconds ρ] [Renderer G β] [Journal G]
variable {s₀ s t : Session ρ (Logged β)} {h₀ h h₁ : Host (Logbook G β)}
variable {ops rest : List (Operation ρ β G)} {a : Shader.Assembly}

/-- The last load of the run succeeded, with a shader of the assembly, and left the host behind. -/
def LastLoaded (s₀ : Session ρ (Logged β)) (h₀ : Host (Logbook G β)) (ops : List (Operation ρ β G))
    (a : Shader.Assembly) (h₁ : Host (Logbook G β)) : Prop :=
  ∃ first source width height connect rest s g s₁ remarks,
    ops = first ++ .load source width height connect :: rest ∧ (∀ op ∈ rest, ¬ op.isLoad) ∧
      run s₀ (first.map .logged) h₀ = (s, g) ∧
      load s source width height (Logbook.connect connect) g = ((.ok (), s₁), h₁) ∧
      Shader.Assembly.read source = .ok (a, remarks)

/-- A load that fails leaves no shader. -/
theorem used_eq_none_of_load_error {source : List Char} {width height : Nat}
    {connect : Shader.Assembly → Nat → Nat → StateM G (Except ConnectError β)} {e : LoadError}
    (hs : Coherent s)
    (hl : load s source width height (Logbook.connect connect) h₀ = ((.error e, t), h)) :
    t.used = none := by
  by_cases hd : s.phase = .disposed
  · rw [load_of_disposed s source width height _ hd] at hl
    cases hl
    rw [← Option.not_isSome_iff_eq_none, hs.used_iff_isLive, hd]
    decide
  · rcases load_frame s h₀ source width height (Logbook.connect connect) hd with
      ⟨a, r, hok⟩ | ⟨e', herror⟩
    · rw [hl] at hok
      cases hok
    · rw [hl] at herror
      cases herror
      rfl

theorem LastLoaded.append_singleton (hl : LastLoaded s₀ h₀ ops a h₁) {op : Operation ρ β G}
    (hop : ¬ op.isLoad) : LastLoaded s₀ h₀ (ops ++ [op]) a h₁ := by
  obtain ⟨first, source, width, height, connect, rest, s, g, s₁, remarks, rfl, hrest, hload⟩ := hl
  refine ⟨first, source, width, height, connect, rest ++ [op], s, g, s₁, remarks, by simp, ?_, hload⟩
  exact List.forall_mem_append.2 ⟨hrest, by simpa using hop⟩

/-- A session with a shader has it from the last load, and has counted the frames since then. -/
theorem exists_lastLoaded (hs₀ : Coherent s₀) (hu₀ : s₀.used = none) (ops : List (Operation ρ β G))
    {used : Shader.UniformSet} (hrun : run s₀ (ops.map .logged) h₀ = (s, h))
    (hu : s.used = some used) :
    ∃ a h₁ es, LastLoaded s₀ h₀ ops a h₁ ∧ used = a.uniforms ∧
      h.graphics.entries = h₁.graphics.entries ++ es ∧ s.frameCount = presented es := by
  induction ops using List.reverseRecOn generalizing s h with
  | nil =>
    cases hrun
    rw [hu₀] at hu
    cases hu
  | append_singleton ops op ih =>
    rcases hbefore : run s₀ (ops.map .logged) h₀ with ⟨t, g⟩
    have ht : Coherent t := by
      have hall := coherent_run h₀ (ops.map Operation.logged) hs₀
      rwa [hbefore] at hall
    rw [List.map_append, run_append_apply, hbefore] at hrun
    replace hrun : operate t op.logged g = (s, h) := hrun
    obtain ⟨es, hes, -, hcount⟩ := writesFrame_operate g op ht
    have hstep := stepsTo_operate g op.logged ht
    rw [hrun] at hes hcount hstep
    by_cases hop : op.isLoad
    · cases op with
      | load source width height connect =>
        rcases hl : load t source width height (Logbook.connect connect) g with ⟨⟨answer, s'⟩, h'⟩
        simp only [Operation.logged, operate, bind_apply, pure_apply, hl] at hrun
        cases hrun
        rcases answer with e | ⟨⟩
        · rw [used_eq_none_of_load_error ht hl] at hu
          cases hu
        · obtain ⟨-, a, remarks, r, ha, rfl⟩ := load_eq_ok hl
          cases hu
          exact ⟨a, h, [], ⟨ops, source, width, height, connect, [], t, g, _, remarks, rfl, by simp,
            hbefore, hl, ha⟩, rfl, (List.append_nil _).symm, rfl⟩
      | _ => cases hop
    · rcases hstep.used_eq (by cases op <;> first | rfl | exact absurd rfl hop) with heq | heq
      · obtain ⟨a, h₁, fs, hlast, rfl, hfs, hframes⟩ := ih hbefore (heq.symm.trans hu)
        refine ⟨a, h₁, fs ++ es, hlast.append_singleton hop, rfl, ?_, ?_⟩
        · rw [hes, hfs, List.append_assoc]
        · rw [hcount hop, hframes, presented_append]
      · rw [heq] at hu
        cases hu

/-- The tick of a run that wrote a block. -/
theorem exists_tick_of_write (hs₀ : Coherent s₀) (ops : List (Operation ρ β G))
    {pre post : List (LogEntry β)} {n : Nat} {block : UniformBlock} {behind : β}
    (hwrite : (run s₀ (ops.map .logged) h₀).2.graphics.entries =
      h₀.graphics.entries ++ pre ++ .called n (.writeUniforms block behind) :: post) :
    ∃ before now today after t g between more used,
      ops = before ++ .tick now today :: after ∧ run s₀ (before.map .logged) h₀ = (t, g) ∧
      h₀.graphics.entries ++ pre = g.graphics.entries ++ between ∧ presented between = 0 ∧
      (tick t now today g).2.graphics.entries =
        h₀.graphics.entries ++ pre ++ .called n (.writeUniforms block behind) :: more ∧
      t.used = some used ∧ block = t.frameBlock now today used := by
  induction ops generalizing s₀ h₀ pre with
  | nil =>
    rw [List.map_nil, run_nil_apply, List.append_assoc, List.self_eq_append_right] at hwrite
    simp at hwrite
  | cons op ops ih =>
    have ht := coherent_operate h₀ op.logged hs₀
    obtain ⟨es, hes, hwrites, -⟩ := writesFrame_operate h₀ op hs₀
    obtain ⟨fs, hfs⟩ := exists_entries_run (operate s₀ op.logged h₀).2 ops ht
    have hall : es ++ fs = pre ++ .called n (.writeUniforms block behind) :: post := by
      have hboth := hfs.symm.trans hwrite
      rw [hes, List.append_assoc, List.append_assoc] at hboth
      exact List.append_cancel_left hboth
    rcases append_eq_append_cons_cases hall with ⟨l, hl, -⟩ | ⟨l, rfl, hl⟩
    · obtain ⟨hpre, now, today, used, rfl, hu, hblock⟩ := hwrites _ _ _ _ _ hl
      refine ⟨[], now, today, ops, s₀, h₀, pre, l, used, rfl, rfl, rfl, hpre, ?_, hu, hblock⟩
      rw [List.append_assoc, ← hl]
      exact hes
    · rw [hl, ← List.append_assoc] at hfs
      obtain ⟨before, now, today, after, t, g, between, more, used, rfl, hrun, hbetween, hzero, htick,
        hu, hblock⟩ := ih ht hfs
      refine ⟨op :: before, now, today, after, t, g, between, more, used, rfl, hrun, ?_, hzero, ?_, hu,
        hblock⟩
      · rw [← hbetween, hes, List.append_assoc]
      · rw [htick, hes, List.append_assoc h₀.graphics.entries]

/-- Behind the given entries a tick of the run wrote the block.  It shows what the tick found to the
shader of the last load: the size, and of the shader time, the time since the last tick, the number
of frames presented since that load, the pointer and the date those that the shader uses.  All others
are zero, and so is the padding. -/
def ShowsTick (s₀ : Session ρ (Logged β)) (h₀ : Host (Logbook G β)) (ops : List (Operation ρ β G))
    (pre : List (LogEntry β)) (n : Nat) (block : UniformBlock) (behind : β) : Prop :=
  ∃ before now today after t g a h₁ es more,
    ops = before ++ .tick now today :: after ∧ run s₀ (before.map .logged) h₀ = (t, g) ∧
    (tick t now today g).2.graphics.entries =
      h₀.graphics.entries ++ pre ++ .called n (.writeUniforms block behind) :: more ∧
    LastLoaded s₀ h₀ before a h₁ ∧ h₀.graphics.entries ++ pre = h₁.graphics.entries ++ es ∧
    block = .showing a.uniforms (.ofSize t.nextSize.1 t.nextSize.2)
      ⟨Seconds.toSingle (t.clock.advance now).1, Seconds.toSingle (t.clock.advance now).2.1,
        presented es, t.pointer, today⟩ ∧
    block.padding = [0, 0]

/-- Every block in the log of a run shows its tick to the shader of the last load, and a load that
succeeds starts from the block that shows the size and otherwise zeros. -/
theorem uniforms_show_inputs {options : PreviewOptions} (hs₀ : create? options = some s₀)
    (ops : List (Operation ρ β G)) (hrun : run s₀ (ops.map .logged) h₀ = (s, h)) :
    (∀ pre n block behind post,
      h.graphics.entries =
        h₀.graphics.entries ++ pre ++ .called n (.writeUniforms block behind) :: post →
      ShowsTick s₀ h₀ ops pre n block behind) ∧
    ∀ before source width height connect after t g s₁ h₁,
      ops = before ++ .load source width height connect :: after →
      run s₀ (before.map .logged) h₀ = (t, g) →
      load t source width height (Logbook.connect connect) g = ((.ok (), s₁), h₁) →
      ∃ a remarks, Shader.Assembly.read source = .ok (a, remarks) ∧
        s₁.block = .showing a.uniforms (.ofSize (max width 1) (max height 1)) .zero := by
  have hc₀ := coherent_of_create? hs₀
  refine ⟨fun pre n block behind post hwrite => ?_, fun _ _ _ _ _ _ _ _ _ _ _ _ => block_of_load⟩
  obtain ⟨before, now, today, after, t, g, between, more, used, rfl, hbefore, hbetween, hzero, htick,
    hu, rfl⟩ := exists_tick_of_write hc₀ ops (by rw [hrun]; exact hwrite)
  obtain ⟨a, h₁, es, hlast, rfl, hes, hcount⟩ :=
    exists_lastLoaded hc₀ (create?_frame hs₀).2.2.1 before hbefore hu
  have hsize : SizeShown t := by
    have hall := sizeShown_run h₀ (before.map Operation.logged) hc₀ (sizeShown_of_create? hs₀)
    rwa [hbefore] at hall
  have hclear : Clear t := by
    have hall := clear_run h₀ (before.map Operation.logged) hc₀
      (clear_of_used_eq_none (create?_frame hs₀).2.2.1)
    rwa [hbefore] at hall
  refine ⟨before, now, today, after, t, g, a, h₁, es ++ between, more, rfl, hbefore, htick, hlast, ?_,
    ?_, rfl⟩
  · rw [hbetween, hes, List.append_assoc]
  · -- the entries of the tick before the write present no frame
    rw [presented_append, hzero, Nat.add_zero, ← hcount]
    exact frameBlock_eq_showing hsize hclear hu now today

end Run

/-- A shader that reads the time, the pointer and the frame number. -/
def timedShader : List Char :=
  ("void mainImage(out vec4 color, in vec2 coord) \x7b " ++
    "color = vec4(iTime, iMouse.x, float(iFrame), 1.0); \x7d").toList

/-- A shader that reads inputs is shown twice, and then one that reads none. -/
def succeededPreview : List (Operation Float ScriptedRenderer Recording) :=
  [.load timedShader 320 240 (ScriptedRenderer.connect (.ok steadyRenderer)), .start,
    .pointerMoved 3 4, .tick 0 .zero, .tick 1500000000 .zero,
    .load blankShader 640 480 (ScriptedRenderer.connect (.ok steadyRenderer)), .start,
    .tick 3000000000 .zero]

/-- The entry hands uniforms to the renderer with the given number. -/
def writesTo {β : Type} (n : Nat) : LogEntry β → Bool
  | .called m (.writeUniforms _ _) => m == n
  | _ => false

theorem exists_of_writesTo {β : Type} {n : Nat} {e : LogEntry β} (he : writesTo n e) :
    ∃ block behind, e = .called n (.writeUniforms block behind) := by
  unfold writesTo at he
  split at he
  · exact ⟨_, _, by rw [beq_iff_eq.1 he]⟩
  · cases he

/-- The renderer of the second shader, whose connection is the seventh entry, gets uniforms. -/
theorem uniforms_show_inputs_succeededPreview :
    ∃ (s : Session Float (Logged ScriptedRenderer)) (h : Host (Logbook Recording ScriptedRenderer))
      (pre post : List (LogEntry ScriptedRenderer)) (block : UniformBlock)
      (behind : ScriptedRenderer),
      run freshSession (succeededPreview.map .logged) blankHost = (s, h) ∧
      h.graphics.entries =
        blankHost.graphics.entries ++ pre ++ .called 6 (.writeUniforms block behind) :: post ∧
      ShowsTick freshSession blankHost succeededPreview pre 6 block behind := by
  have hany : (run freshSession (succeededPreview.map .logged) blankHost).2.graphics.entries.any
      (writesTo 6) := by
    unfold succeededPreview timedShader blankShader
    rw [String.toList_append]
    repeat rw [String.toList_ofList]
    decide +kernel
  -- from here on the run is not to be evaluated
  rcases hrun : run freshSession (succeededPreview.map .logged) blankHost with ⟨s, h⟩
  rw [hrun] at hany
  obtain ⟨e, he, hwrite⟩ := List.any_eq_true.1 hany
  obtain ⟨pre, post, hentries⟩ := List.append_of_mem he
  obtain ⟨block, behind, rfl⟩ := exists_of_writesTo hwrite
  exact ⟨s, h, pre, post, block, behind, rfl, hentries,
    (uniforms_show_inputs create?_default succeededPreview hrun).1 pre 6 block behind post hentries⟩

end Session

end ShaderPreview
