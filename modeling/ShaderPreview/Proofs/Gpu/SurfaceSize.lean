import ShaderPreview.Proofs.Gpu.SurfaceStep
import ShaderPreview.Proofs.Preview.Size

/-!
# The size of a surface

Of a session on a window, the surface, the uniforms and the session itself keep a size each.
`Surfaced` says what the marks of a run so far leave behind: the surface was set up last in the size of
the session, as it was chosen when it was created.  Every `SurfaceStep` keeps it, and so every frame
that is submitted shows one size (`submitted_at_size`).
-/

namespace ShaderPreview

namespace Gpu

open Session

/-- What is chosen of a surface when it is created. -/
def SurfaceSetup.choices (s : SurfaceSetup) : TextureFormat × PresentMode × AlphaMode :=
  (s.format, s.presentMode, s.alphaMode)

/-- How a surface is set up, if it is. -/
def SurfaceMark.setup? : SurfaceMark → Option SurfaceSetup
  | configured setup => some setup
  | _ => none

/-- How the surface was set up last. -/
def lastSetup? (ms : List SurfaceMark) : Option SurfaceSetup :=
  (ms.filterMap SurfaceMark.setup?).getLast?

/-- How a surface was set up first, with one more mark. -/
def SurfaceMark.choose (chosen : Option SurfaceSetup) : SurfaceMark → Option SurfaceSetup
  | opened => none
  | configured setup => chosen.or (some setup)
  | _ => chosen

/-- How the surface that was created last was set up first. -/
def chosen? (ms : List SurfaceMark) : Option SurfaceSetup := ms.foldl SurfaceMark.choose none

section Marks

variable {ms ns : List SurfaceMark} {setup setup' : SurfaceSetup}

theorem lastSetup?_append :
    lastSetup? (ms ++ ns) = (lastSetup? ns).or (lastSetup? ms) := by
  rw [lastSetup?, List.filterMap_append, List.getLast?_append]
  rfl

theorem mem_of_lastSetup? (h : lastSetup? ms = some setup) : .configured setup ∈ ms := by
  obtain ⟨m, hm, hsetup⟩ := List.mem_filterMap.1 (List.mem_of_getLast? h)
  cases m with
  | configured setup' =>
    cases hsetup
    exact hm
  | _ => cases hsetup

/-- The last set-up stays if it is only repeated. -/
theorem lastSetup?_append_of_forall_eq (h : lastSetup? ms = some setup)
    (hns : ∀ setup', .configured setup' ∈ ns → setup' = setup) :
    lastSetup? (ms ++ ns) = some setup := by
  rw [lastSetup?_append, h]
  rcases hlast : lastSetup? ns with _ | setup'
  · rfl
  · rw [hns setup' (mem_of_lastSetup? hlast)]
    rfl

theorem chosen?_append : chosen? (ms ++ ns) = ns.foldl SurfaceMark.choose (chosen? ms) :=
  List.foldl_append

/-- What was chosen stays until another surface is created. -/
theorem chosen?_append_of_not_mem (h : chosen? ms = some setup) (hns : .opened ∉ ns) :
    chosen? (ms ++ ns) = some setup := by
  rw [chosen?_append, h]
  induction ns with
  | nil => rfl
  | cons m ns ih =>
    rw [List.mem_cons, not_or] at hns
    have hm : m.choose (some setup) = some setup := by
      cases m with
      | opened => exact absurd rfl hns.1
      | _ => rfl
    rw [List.foldl_cons, hm]
    exact ih hns.2

namespace SurfaceRenderer.DrawMarks

variable {outcome : DrawOutcome}

theorem eq_of_configured (h : DrawMarks setup outcome ms) (hm : .configured setup' ∈ ms) :
    setup' = setup := by
  cases h <;> simp_all

theorem not_mem_opened (h : DrawMarks setup outcome ms) : .opened ∉ ms := by
  cases h <;> simp

theorem eq_of_submitted (h : DrawMarks setup outcome ms) (hm : .submitted ∈ ms) :
    ms = [.framed setup.viewport, .submitted] := by
  cases h <;> simp_all

end SurfaceRenderer.DrawMarks

namespace ConnectMarks

variable {σ : Script} {options : GpuOptions} {width height : Nat}
  {result : Except ConnectError SurfaceRenderer}

theorem of_configured (h : ConnectMarks σ options width height result ms)
    (hm : .configured setup ∈ ms) :
    ms = [.opened, .limited σ.maxDimension, .configured setup] ∧
      chosenSetup? σ options width height = some setup ∧
      max width 1 ≤ σ.maxDimension ∧ max height 1 ≤ σ.maxDimension := by
  cases h with
  | @configured _ chosen hw hh hs hr =>
    obtain rfl : setup = chosen := by simpa using hm
    exact ⟨rfl, hs, hw, hh⟩
  | _ => simp at hm

theorem of_ok {r : SurfaceRenderer} (h : ConnectMarks σ options width height (.ok r) ms) :
    .configured r.setup ∈ ms := by
  cases h with
  | configured hw hh hs hr => simp [hr r rfl]

theorem not_mem_submitted (h : ConnectMarks σ options width height result ms) :
    .submitted ∉ ms := by
  cases h <;> simp

end ConnectMarks

namespace LoadMarks

variable {ρ : Type} {σ : Script} {options : GpuOptions} {width height : Nat}
  {t : Session ρ SurfaceRenderer}

theorem of_configured (h : LoadMarks σ options width height t ms) (hm : .configured setup ∈ ms) :
    ms = [.opened, .limited σ.maxDimension, .configured setup] ∧
      chosenSetup? σ options (max width 1) (max height 1) = some setup ∧
      max width 1 ≤ σ.maxDimension ∧ max height 1 ≤ σ.maxDimension := by
  cases h with
  | unread => cases hm
  | connected hms => simpa using hms.of_configured hm

theorem not_mem_submitted (h : LoadMarks σ options width height t ms) : .submitted ∉ ms := by
  cases h with
  | unread => exact List.not_mem_nil
  | connected hms => exact hms.not_mem_submitted

end LoadMarks

theorem size_of_chosenSetup? {σ : Script} {options : GpuOptions} {width height : Nat}
    (h : chosenSetup? σ options width height = some setup) :
    setup.width = max width 1 ∧ setup.height = max height 1 := by
  obtain ⟨format, -, rfl⟩ := Option.map_eq_some_iff.1 h
  exact ⟨rfl, rfl⟩

end Marks

/-! ## Ticks -/

section Ticks

variable {ρ β : Type} {s : Session ρ β} {setup setup' : SurfaceSetup}
  {ms : List SurfaceMark}

theorem choices_nextSetup : (nextSetup s setup).choices = setup.choices := by
  unfold nextSetup
  rcases s.sizeToApply with _ | size <;> rfl

theorem size_nextSetup (hw : setup.width = s.width) (hh : setup.height = s.height) :
    ((nextSetup s setup).width, (nextSetup s setup).height) = s.nextSize := by
  unfold nextSetup nextSize
  rcases s.sizeToApply with _ | size
  · rw [← hw, ← hh]
    rfl
  · rfl

theorem sizingMarks_eq : sizingMarks s setup =
    if s.sizeToApply.isSome then [.configured (nextSetup s setup)] else [] := by
  unfold sizingMarks nextSetup
  rcases s.sizeToApply with _ | size <;> rfl

theorem eq_of_mem_sizingMarks (hm : .configured setup' ∈ sizingMarks s setup) :
    setup' = nextSetup s setup := by
  rw [sizingMarks_eq] at hm
  split at hm <;> simp_all

/-- A tick sets the surface up in one way only. -/
theorem eq_of_configured_tick {outcome : DrawOutcome} {block : UniformBlock}
    (hms : SurfaceRenderer.DrawMarks (nextSetup s setup) outcome ms)
    (hm : .configured setup' ∈ sizingMarks s setup ++ .written block :: ms) :
    setup' = nextSetup s setup := by
  rcases List.mem_append.1 hm with hm | hm
  · exact eq_of_mem_sizingMarks hm
  · exact hms.eq_of_configured (by simpa using hm)

theorem lastSetup?_append_sizingMarks (h : lastSetup? ms = some setup) :
    lastSetup? (ms ++ sizingMarks s setup) = some (nextSetup s setup) := by
  unfold sizingMarks nextSetup
  rcases s.sizeToApply with _ | size
  · rw [Option.toList_none, List.map_nil, List.append_nil, h]
    rfl
  · rw [lastSetup?_append]
    rfl

theorem not_mem_sizingMarks {m : SurfaceMark} (hm : ∀ setup', m ≠ .configured setup') :
    m ∉ sizingMarks s setup := by
  rw [sizingMarks_eq]
  split
  · simpa using hm _
  · simp

end Ticks

/-! ## Runs -/

variable {ρ : Type}

/-- The marks leave a session with a surface. -/
structure SurfaceLeft (s : Session ρ SurfaceRenderer) (ms : List SurfaceMark)
    (setup : SurfaceSetup) : Prop where
  last : lastSetup? ms = some setup
  width : setup.width = s.width
  height : setup.height = s.height
  chosen : ∃ first, chosen? ms = some first ∧ setup.choices = first.choices

/-- The session fits the marks of its run so far. -/
structure Surfaced (s : Session ρ SurfaceRenderer) (ms : List SurfaceMark) : Prop
    extends Coherent s where
  sizeShown : SizeShown s
  surface : ∀ setup ∈ surface? s, SurfaceLeft s ms setup

section Steps

variable [Seconds ρ] {σ : Script} {s t : Session ρ SurfaceRenderer}
  {op : Operation ρ SurfaceRenderer World} {ms ns : List SurfaceMark}

theorem surfaceLeft_of_step (hs : ∀ setup ∈ surface? s, SurfaceLeft s ms setup)
    (hstep : SurfaceStep σ s op ns t) : ∀ setup ∈ surface? t, SurfaceLeft t (ms ++ ns) setup := by
  intro setup' hsetup'
  cases hstep with
  | kept hop ht hsize =>
    rw [ht] at hsetup'
    obtain ⟨hlast, hw, hh, hchosen⟩ := hs setup' hsetup'
    obtain ⟨htw, hth⟩ := Prod.mk.inj hsize
    rw [List.append_nil]
    exact ⟨hlast, hw.trans htw.symm, hh.trans hth.symm, hchosen⟩
  | loaded hload =>
    cases hload with
    | unread ht =>
      rw [ht] at hsetup'
      cases hsetup'
    | @connected result _ hms ht hsize =>
      rw [ht] at hsetup'
      rcases result with e | r
      · cases hsetup'
      · cases hsetup'
        obtain ⟨rfl, hs, -⟩ := hms.of_configured hms.of_ok
        obtain ⟨hw, hh⟩ := size_of_chosenSetup? hs
        obtain ⟨htw, hth⟩ := Prod.mk.inj (hsize rfl)
        refine ⟨by rw [lastSetup?_append]; rfl, ?_, ?_, r.setup, ?_, rfl⟩
        · omega
        · omega
        · rw [chosen?_append]
          rfl
  | disposed ht =>
    rw [ht] at hsetup'
    cases hsetup'
  | @resized width height setup _ hl hz hs' ht hsize =>
    obtain ⟨hlast, hw, hh, first, hfirst, hchoices⟩ := hs setup hs'
    obtain ⟨htw, hth⟩ := Prod.mk.inj hsize
    rw [ht] at hsetup'
    cases hsetup'
    exact ⟨by rw [lastSetup?_append]; rfl, htw.symm, hth.symm, first,
      chosen?_append_of_not_mem hfirst (by simp), hchoices⟩
  | @ticked now today setup used outcome draws _ hticking hpending hs' hu hms ht hsize =>
    obtain ⟨hlast, hw, hh, first, hfirst, hchoices⟩ := hs setup hs'
    obtain rfl := ht setup' hsetup'
    have hnext := hsize.trans (size_nextSetup hw hh).symm
    obtain ⟨htw, hth⟩ := Prod.mk.inj hnext
    refine ⟨?_, htw.symm, hth.symm, first, chosen?_append_of_not_mem hfirst ?_, ?_⟩
    · rw [← List.append_assoc]
      refine lastSetup?_append_of_forall_eq (lastSetup?_append_sizingMarks hlast) fun _ hm => ?_
      exact hms.eq_of_configured (by simpa using hm)
    · simp [not_mem_sizingMarks, hms.not_mem_opened]
    · rw [choices_nextSetup, hchoices]

variable {h : Host World}

theorem Surfaced.operate (hs : Surfaced s ms) (hop : OnWindowWith op) :
    ∃ ns, Marked h.graphics ns (s.operate op h).2.graphics ∧
      SurfaceStep h.graphics.script s op ns (s.operate op h).1 ∧
      Surfaced (s.operate op h).1 (ms ++ ns) := by
  obtain ⟨ns, hmarks, hstep⟩ := surfaceStep_operate h hop hs.toCoherent
  exact ⟨ns, hmarks, hstep, coherent_operate h op hs.toCoherent,
    sizeShown_operate h op hs.toCoherent hs.sizeShown, surfaceLeft_of_step hs.surface hstep⟩

theorem surfaced_of_create? {options : PreviewOptions} (hs : create? options = some s) :
    Surfaced s [] where
  toCoherent := coherent_of_create? hs
  sizeShown := sizeShown_of_create? hs
  surface := by
    rw [surface?_eq_none (create?_frame hs).2.1]
    nofun

theorem surfaced_run {options : PreviewOptions} (hs : create? options = some s)
    (ops : List (Operation ρ SurfaceRenderer World)) (hops : ∀ op ∈ ops, OnWindowWith op) :
    ∃ ms, Marked h.graphics ms (run s ops h).2.graphics ∧ Surfaced (run s ops h).1 ms := by
  refine run_induction (P := fun t h' => ∃ ms, Marked h.graphics ms h'.graphics ∧ Surfaced t ms) ops
    ?_ ⟨[], .refl _, surfaced_of_create? hs⟩
  rintro op hop t h' ⟨ms, hms, ht⟩
  obtain ⟨ns, hns, -, ht'⟩ := ht.operate (h := h') (hops op hop)
  exact ⟨ms ++ ns, hms.trans hns, ht'⟩

end Steps

/-! ## Frames -/

/-- A frame with its uniforms and its viewport shows a size, in which the surface was set up last. -/
structure FrameShown (before : List SurfaceMark) (block : UniformBlock) (viewport : Viewport)
    (width height : Nat) : Prop where
  width_ne_zero : width ≠ 0
  height_ne_zero : height ≠ 0
  setup : ∃ setup, lastSetup? before = some setup ∧ setup.width = width ∧ setup.height = height
  viewport_eq : viewport = ⟨0, 0, Float32.ofNat width, Float32.ofNat height, 0, 1⟩
  resolution : block.resolution = .ofSize width height

section Frames

variable [Seconds ρ] {σ : Script} {s t s' : Session ρ SurfaceRenderer}
  {op : Operation ρ SurfaceRenderer World} {ms ns : List SurfaceMark}

theorem SurfaceStep.choices (hstep : SurfaceStep σ s op ns t) (hs : Surfaced s ms) :
    ∀ setup, .configured setup ∈ ns →
      ∃ first, chosen? (ms ++ ns) = some first ∧ setup.choices = first.choices := by
  intro setup' hm
  cases hstep with
  | kept | disposed => cases hm
  | loaded hload =>
    obtain ⟨rfl, -⟩ := hload.of_configured hm
    exact ⟨setup', by rw [chosen?_append]; rfl, rfl⟩
  | resized hl hz hs' =>
    obtain ⟨-, -, -, first, hfirst, hchoices⟩ := hs.surface _ hs'
    cases List.mem_singleton.1 hm
    exact ⟨first, chosen?_append_of_not_mem hfirst (by simp), hchoices⟩
  | @ticked now today setup used outcome draws _ hticking hpending hs' hu hms =>
    obtain ⟨-, -, -, first, hfirst, hchoices⟩ := hs.surface setup hs'
    refine ⟨first, chosen?_append_of_not_mem hfirst ?_, ?_⟩
    · simp [not_mem_sizingMarks, hms.not_mem_opened]
    · rw [eq_of_configured_tick hms hm, choices_nextSetup, hchoices]

/-- Only a tick submits a frame, and it submits one. -/
theorem SurfaceStep.frameShown (hstep : SurfaceStep σ s op ns t) (hs : Surfaced s ms)
    (hm : .submitted ∈ ns) :
    ∃ (sizing : List SurfaceMark) (block : UniformBlock) (viewport : Viewport),
      ns = sizing ++ [.written block, .framed viewport, .submitted] ∧
        (∀ m ∈ sizing, ∃ setup, m = .configured setup) ∧
        FrameShown (ms ++ sizing) block viewport t.width t.height := by
  cases hstep with
  | kept | disposed => cases hm
  | loaded hload => exact absurd hm hload.not_mem_submitted
  | resized => simp at hm
  | @ticked now today setup used outcome draws _ hticking hpending hs' hu hms ht hsize =>
    obtain ⟨hlast, hw, hh, -⟩ := hs.surface setup hs'
    obtain ⟨hwidth, hheight, hresolution⟩ := hs.sizeShown.frameBlock hu now today
    obtain ⟨htw, hth⟩ := Prod.mk.inj hsize
    obtain ⟨hsw, hsh⟩ := Prod.mk.inj (size_nextSetup hw hh)
    have hdraws : draws = [.framed (nextSetup s setup).viewport, .submitted] :=
      hms.eq_of_submitted (by simpa [not_mem_sizingMarks] using hm)
    rw [hdraws, htw, hth]
    refine ⟨_, _, _, rfl, ?_, hwidth, hheight, ⟨_, lastSetup?_append_sizingMarks hlast, hsw, hsh⟩, ?_,
      hresolution⟩
    · simp only [sizingMarks, List.mem_map]
      rintro m ⟨size, -, rfl⟩
      exact ⟨_, rfl⟩
    · rw [SurfaceSetup.viewport, hsw, hsh]

/-- In every run of a session on windows, an operation that submits a frame shows one size by it, which
is not empty: the size of the session, in which the surface was set up last, is the size of the
viewport and the resolution in the uniforms that were written for the frame.  A surface is set up as
was chosen when it was created, but for its size. -/
theorem submitted_at_size {options : PreviewOptions} {s₀ : Session ρ SurfaceRenderer}
    {h₀ h h' : Host World} {ops : List (Operation ρ SurfaceRenderer World)}
    (hs₀ : create? options = some s₀) (hops : ∀ op ∈ ops, OnWindowWith op)
    (hop : OnWindowWith op) (hrun : run s₀ ops h₀ = (s, h)) (hstep : s.operate op h = (s', h')) :
    ∃ earlier ms, Marked h₀.graphics earlier h.graphics ∧ Marked h.graphics ms h'.graphics ∧
      (.submitted ∈ ms →
        ∃ (sizing : List SurfaceMark) (block : UniformBlock) (viewport : Viewport),
          ms = sizing ++ [.written block, .framed viewport, .submitted] ∧
            (∀ m ∈ sizing, ∃ setup, m = .configured setup) ∧
            FrameShown (earlier ++ sizing) block viewport s'.width s'.height) ∧
      (∀ setup, .configured setup ∈ ms →
        ∃ first, chosen? (earlier ++ ms) = some first ∧ setup.choices = first.choices) ∧
      ∀ source width height check change handles options,
        op = .load source width height (connectToWith check change handles options) →
          ∀ setup, .configured setup ∈ ms →
            chosenSetup? (change h.graphics.script) options (max width 1) (max height 1) =
              some setup := by
  obtain ⟨earlier, hearlier, hs⟩ := surfaced_run (h := h₀) hs₀ ops hops
  rw [hrun] at hearlier hs
  obtain ⟨ms, hms, hsurface, -⟩ := hs.operate (h := h) hop
  rw [hstep] at hms hsurface
  refine ⟨earlier, ms, hearlier, hms, hsurface.frameShown hs, hsurface.choices hs, ?_⟩
  rintro source width height check change handles options rfl setup hm
  by_cases hd : s.phase = .disposed
  · simp only [operate, load_of_disposed s source width height _ hd] at hstep
    cases hstep
    rw [hms.unique (.refl _)] at hm
    cases hm
  · obtain ⟨ms', hms', hload⟩ := marked_load h hd source width height check change handles options
    have hloaded : (s.load source width height (connectToWith check change handles options) h).2 = h' :=
      congrArg Prod.snd hstep
    rw [hloaded] at hms'
    rw [hms.unique hms'] at hm
    exact (hload.of_configured hm).2.1

/-- A window on a device without errors. -/
def windowHost : Host World := .ofGraphics (.ofScript .default)

/-- What follows a load: the session is started, and another size is asked for. -/
def firstOperations : List (Operation Float SurfaceRenderer World) :=
  [.start, .requestSize 640 480]

/-- A shader is loaded on a window, and its first tick is waited for. -/
def windowPreview : List (Operation Float SurfaceRenderer World) :=
  .load blankShader 320 240 (connectToWith Glsl.check id ⟨true, true⟩ .default) :: firstOperations

def SurfaceMark.isSubmitted : SurfaceMark → Bool
  | submitted => true
  | _ => false

/-- The first tick of a session on a host. -/
def firstTick (p : Session Float SurfaceRenderer × Host World) :
    Session Float SurfaceRenderer × Host World :=
  p.1.operate (.tick 0 .zero) p.2

theorem load_blankShader : ∃ (s : Session Float SurfaceRenderer) (h : Host World),
    freshSession.load blankShader 320 240
          (connectToWith Glsl.check id ⟨true, true⟩ .default) windowHost = ((.ok (), s), h) ∧
      (marks (run s firstOperations h).2.graphics.calls).any SurfaceMark.isSubmitted = false ∧
      (marks (firstTick (run s firstOperations h)).2.graphics.calls).any
        SurfaceMark.isSubmitted ∧
      ((firstTick (run s firstOperations h)).1.width,
        (firstTick (run s firstOperations h)).1.height) = (640, 480) := by
  obtain ⟨remarks, hread, hremarks⟩ := read_blankShader
  unfold load connectToWith SurfaceRenderer.connectWith Pipeline.createWith noteAssembled
  rw [hread]
  dsimp only
  rw [checkStages_blankAssembly, hremarks]
  refine ⟨_, _, rfl, ?_, ?_, ?_⟩ <;> decide +kernel

theorem submitted_at_size_windowPreview :
    ∃ (s s' : Session Float SurfaceRenderer) (h h' : Host World)
      (earlier sizing : List SurfaceMark) (block : UniformBlock) (viewport : Viewport),
      run freshSession windowPreview windowHost = (s, h) ∧
        firstTick (s, h) = (s', h') ∧ Marked windowHost.graphics earlier h.graphics ∧
        Marked h.graphics (sizing ++ [.written block, .framed viewport, .submitted]) h'.graphics ∧
        FrameShown (earlier ++ sizing) block viewport 640 480 := by
  obtain ⟨s₁, h₁, hload, hbefore, hbehind, hsize⟩ := load_blankShader
  rcases hrun : run s₁ firstOperations h₁ with ⟨s, h⟩
  rcases hstep : firstTick (s, h) with ⟨s', h'⟩
  have hfirst : run freshSession windowPreview windowHost = (s, h) := by
    rw [← hrun, windowPreview, run_cons_apply, operate, bind_apply, hload]
    rfl
  rw [hrun] at hbefore
  rw [hrun, hstep] at hbehind hsize
  obtain ⟨hwidth, hheight⟩ := Prod.mk.inj hsize
  have hops : ∀ op ∈ windowPreview, OnWindowWith op := List.forall_mem_cons.2
    ⟨⟨Glsl.check, id, _, _, rfl⟩, by simp [firstOperations, OnWindowWith]⟩
  have hop : OnWindowWith (.tick 0 .zero : Operation Float SurfaceRenderer World) := trivial
  obtain ⟨earlier, ms, hearlier, hms, hframe, -⟩ :=
    submitted_at_size create?_default hops hop hfirst hstep
  have hm : .submitted ∈ ms := by
    rw [hms, List.any_append, hbefore, Bool.false_or, List.any_eq_true] at hbehind
    obtain ⟨m, hm, hsubmitted⟩ := hbehind
    cases m with
    | submitted => exact hm
    | _ => cases hsubmitted
  obtain ⟨sizing, block, viewport, rfl, -, hshown⟩ := hframe hm
  rw [hwidth, hheight] at hshown
  exact ⟨s, s', h, h', earlier, sizing, block, viewport, hfirst, hstep, hearlier, hms, hshown⟩

end Frames

end Gpu

end ShaderPreview
