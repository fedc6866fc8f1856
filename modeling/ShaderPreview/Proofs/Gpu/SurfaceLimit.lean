import ShaderPreview.Proofs.Gpu.SurfaceSize

/-!
# Surfaces and the limit of their device

A device allows textures up to a size, and a surface is checked against it when it is created.  What
a session is given later is not checked: a surface stays within the limit exactly if every size that
the session takes does (`withinLimit_iff`).
-/

namespace ShaderPreview

namespace Gpu

open Session

/-- Both sides are within the limit. -/
def SurfaceSetup.Fits (setup : SurfaceSetup) (limit : Nat) : Prop :=
  setup.width ≤ limit ∧ setup.height ≤ limit

/-- The limit of a device, if one is asked for. -/
def SurfaceMark.limit? : SurfaceMark → Option Nat
  | limited maxDimension => some maxDimension
  | _ => none

/-- The limit of the device that was asked for last. -/
def lastLimit? (ms : List SurfaceMark) : Option Nat :=
  (ms.filterMap SurfaceMark.limit?).getLast?

/-- Whenever the surface is set up, behind the earlier marks, it fits the limit. -/
def WithinLimit (earlier ms : List SurfaceMark) : Prop :=
  ∀ before setup after, ms = before ++ .configured setup :: after →
    ∃ limit ∈ lastLimit? (earlier ++ before), setup.Fits limit

section Marks

variable {earlier ms ns : List SurfaceMark} {m : SurfaceMark} {setup : SurfaceSetup} {limit : Nat}

theorem lastLimit?_append :
    lastLimit? (ms ++ ns) = (lastLimit? ns).or (lastLimit? ms) := by
  rw [lastLimit?, List.filterMap_append, List.getLast?_append]
  rfl

theorem lastLimit?_append_of_forall (hns : ∀ m ∈ ns, m.limit? = none) :
    lastLimit? (ms ++ ns) = lastLimit? ms := by
  rw [lastLimit?_append, lastLimit?, List.filterMap_eq_nil_iff.2 hns]
  rfl

theorem withinLimit_append :
    WithinLimit earlier (ms ++ ns) ↔ WithinLimit earlier ms ∧ WithinLimit (earlier ++ ms) ns := by
  constructor
  · intro h
    constructor
    · rintro before setup after rfl
      exact h before setup (after ++ ns) (by simp)
    · rintro before setup after rfl
      rw [List.append_assoc]
      exact h (ms ++ before) setup after (by simp)
  · rintro ⟨hms, hns⟩ before setup after h
    rcases append_eq_append_cons_cases h with ⟨l, rfl, -⟩ | ⟨l, rfl, rfl⟩
    · exact hms before setup l rfl
    · rw [← List.append_assoc]
      exact hns l setup after rfl

theorem withinLimit_of_forall (hns : ∀ setup, .configured setup ∉ ns) :
    WithinLimit earlier ns := by
  rintro before setup after rfl
  exact absurd (by simp) (hns setup)

theorem withinLimit_singleton :
    WithinLimit earlier [.configured setup] ↔ ∃ limit ∈ lastLimit? earlier, setup.Fits limit := by
  constructor
  · intro h
    simpa using h [] setup [] rfl
  · rintro h before setup' after heq
    rcases before with _ | ⟨_, before⟩
    · obtain ⟨⟨rfl⟩, -⟩ := List.cons.inj heq
      rwa [List.append_nil]
    · simp at heq

/-- A set-up that fits can be repeated. -/
theorem withinLimit_of_forall_eq (hlimit : lastLimit? earlier = some limit) (hfits : setup.Fits limit)
    (hns : ∀ setup', .configured setup' ∈ ns → setup' = setup)
    (hnone : ∀ m ∈ ns, m.limit? = none) : WithinLimit earlier ns := by
  rintro before setup' after rfl
  rw [hns setup' (by simp), lastLimit?_append_of_forall fun m hm => hnone m (by simp [hm])]
  exact ⟨limit, hlimit, hfits⟩

theorem exists_fits_of_eq (hlimit : lastLimit? earlier = some limit)
    (h : ∃ limit ∈ lastLimit? earlier, setup.Fits limit) : setup.Fits limit := by
  obtain ⟨limit', hlimit', hfits⟩ := h
  cases hlimit.symm.trans hlimit'
  exact hfits

end Marks

/-! ## Steps -/

variable {ρ : Type}

/-- There is a limit for the surface, which it fits if every surface before did. -/
def Limited (s : Session ρ SurfaceRenderer) (ms : List SurfaceMark) : Prop :=
  ∀ setup ∈ surface? s, ∃ limit ∈ lastLimit? ms, WithinLimit [] ms → setup.Fits limit

/-- Both sides of a size are within the limit of the device that was asked for last. -/
def SizeFits (ms : List SurfaceMark) (size : Nat × Nat) : Prop :=
  ∃ limit ∈ lastLimit? ms, size.1 ≤ limit ∧ size.2 ≤ limit

section Parts

variable {σ : Script} {s t : Session ρ SurfaceRenderer}
  {op : Operation ρ SurfaceRenderer World} {earlier ms : List SurfaceMark}

theorem ConnectMarks.fits {options : GpuOptions} {width height : Nat} {setup : SurfaceSetup}
    {result : Except ConnectError SurfaceRenderer}
    (h : ConnectMarks σ options width height result ms) (hm : .configured setup ∈ ms) :
    setup.Fits σ.maxDimension := by
  obtain ⟨-, hs, hw, hh⟩ := h.of_configured hm
  obtain ⟨hwidth, hheight⟩ := size_of_chosenSetup? hs
  exact ⟨hwidth ▸ hw, hheight ▸ hh⟩

theorem LoadMarks.withinLimit {options : GpuOptions} {width height : Nat}
    (h : LoadMarks σ options width height t ms) : WithinLimit earlier ms := by
  cases h with
  | unread => exact withinLimit_of_forall fun _ => List.not_mem_nil
  | connected hms =>
    by_cases hm : ∃ setup, .configured setup ∈ ms
    · obtain ⟨setup, hm⟩ := hm
      have hfits := hms.fits hm
      obtain ⟨rfl, -⟩ := hms.of_configured hm
      show WithinLimit earlier ([.opened, .limited σ.maxDimension] ++ [.configured setup])
      exact withinLimit_append.2 ⟨withinLimit_of_forall (by simp), withinLimit_singleton.2
        ⟨_, by rw [lastLimit?_append]; rfl, hfits⟩⟩
    · exact withinLimit_of_forall fun setup hm' => hm ⟨setup, hm'⟩

theorem withinLimit_sizingMarks {setup : SurfaceSetup} :
    WithinLimit ms (sizingMarks s setup) ↔ ∀ size, s.sizeToApply = some size → SizeFits ms size := by
  unfold sizingMarks
  rcases s.sizeToApply with _ | size
  · exact iff_of_true (withinLimit_of_forall fun _ => List.not_mem_nil) nofun
  · rw [Option.toList_some, List.map_singleton, withinLimit_singleton]
    simp only [Option.some.injEq, forall_eq']
    rfl

theorem limit?_of_mem_tick {setup : SurfaceSetup} {block : UniformBlock} {outcome : DrawOutcome}
    (hms : SurfaceRenderer.DrawMarks (nextSetup s setup) outcome ms) :
    ∀ m ∈ sizingMarks s setup ++ .written block :: ms, m.limit? = none := by
  rw [List.forall_mem_append, List.forall_mem_cons, sizingMarks_eq]
  refine ⟨?_, rfl, ?_⟩
  · split <;> simp [SurfaceMark.limit?]
  · cases hms <;> simp [SurfaceMark.limit?]

/-- A surface that fits still does when a tick has set it up within the limit. -/
theorem fits_nextSetup {setup : SurfaceSetup} {limit : Nat} (hlimit : lastLimit? ms = some limit)
    (hfits : setup.Fits limit) (hsizing : WithinLimit ms (sizingMarks s setup)) :
    (nextSetup s setup).Fits limit := by
  by_cases hn : s.sizeToApply.isSome
  · rw [sizingMarks_eq, if_pos hn] at hsizing
    exact exists_fits_of_eq hlimit (withinLimit_singleton.1 hsizing)
  · rw [nextSetup, Option.not_isSome_iff_eq_none.1 hn]
    exact hfits

/-- A session that takes a size has a surface. -/
theorem exists_surface_of_takes {size : Nat × Nat} (hs : Coherent s) (ht : Takes s size op) :
    ∃ setup, surface? s = some setup := by
  have hl : s.phase.isLive := by
    cases op with
    | resize => exact ht.1
    | tick => exact isLive_of_isTicking ht.1
    | _ => exact ht.elim
  obtain ⟨r, hr⟩ := hs.exists_renderer hl
  exact ⟨r.setup, surface?_eq_some hr⟩

/-- The limit of a session's surface is known by the marks of its own run. -/
theorem Limited.sizeFits_append_iff {size : Nat × Nat} (hl : Limited s ms) (hs : Coherent s)
    (ht : Takes s size op) : SizeFits (earlier ++ ms) size ↔ SizeFits ms size := by
  obtain ⟨setup, hsetup⟩ := exists_surface_of_takes hs ht
  obtain ⟨limit, hlimit, -⟩ := hl setup hsetup
  rw [SizeFits, SizeFits, lastLimit?_append, hlimit]
  rfl

end Parts

section Steps

variable [Seconds ρ] {σ : Script} {s t : Session ρ SurfaceRenderer}
  {op : Operation ρ SurfaceRenderer World} {ms ns : List SurfaceMark}

theorem limited_of_step (hl : Limited s ms) (hstep : SurfaceStep σ s op ns t) :
    Limited t (ms ++ ns) := by
  intro setup' hsetup'
  cases hstep with
  | kept hop ht =>
    rw [ht] at hsetup'
    rw [List.append_nil]
    exact hl setup' hsetup'
  | loaded hload =>
    cases hload with
    | unread ht =>
      rw [ht] at hsetup'
      cases hsetup'
    | @connected result _ hms ht =>
      rw [ht] at hsetup'
      rcases result with e | r
      · cases hsetup'
      · cases hsetup'
        have hfits := hms.fits hms.of_ok
        obtain ⟨rfl, -⟩ := hms.of_configured hms.of_ok
        exact ⟨_, by rw [lastLimit?_append]; rfl, fun _ => hfits⟩
  | @resized width height setup _ _ _ hs ht =>
    obtain ⟨limit, hlimit, -⟩ := hl setup hs
    rw [ht] at hsetup'
    cases hsetup'
    refine ⟨limit, (lastLimit?_append_of_forall (by simp [SurfaceMark.limit?])).trans hlimit, ?_⟩
    intro hw
    exact exists_fits_of_eq hlimit (withinLimit_singleton.1 (withinLimit_append.1 hw).2)
  | @ticked now today setup used outcome draws _ _ _ hs _ hms ht =>
    obtain ⟨limit, hlimit, hfits⟩ := hl setup hs
    cases ht setup' hsetup'
    refine ⟨limit, (lastLimit?_append_of_forall (limit?_of_mem_tick hms)).trans hlimit, ?_⟩
    intro hw
    obtain ⟨hms, htick⟩ := withinLimit_append.1 hw
    exact fits_nextSetup hlimit (hfits hms) (withinLimit_append.1 htick).1
  | disposed ht =>
    rw [ht] at hsetup'
    cases hsetup'

/-- Behind marks within the limit, the marks of an operation are within it if the size is that the
operation gives. -/
theorem SurfaceStep.withinLimit_iff (hstep : SurfaceStep σ s op ns t) (hl : Limited s ms)
    (hw : WithinLimit [] ms) : WithinLimit ms ns ↔ ∀ size, Takes s size op → SizeFits ms size := by
  cases hstep with
  | kept hop =>
    exact iff_of_true (withinLimit_of_forall fun _ => List.not_mem_nil)
      fun size htakes => absurd htakes (hop size)
  | loaded hload => exact iff_of_true hload.withinLimit fun _ => False.elim
  | disposed =>
    exact iff_of_true (withinLimit_of_forall fun _ => List.not_mem_nil) fun _ => False.elim
  | resized hlive hz =>
    rw [withinLimit_singleton]
    constructor
    · rintro hfits size ⟨-, -, rfl⟩
      exact hfits
    · intro hsize
      exact hsize _ ⟨hlive, hz, rfl⟩
  | @ticked now today setup used outcome draws _ hticking hpending hs hu hms =>
    obtain ⟨limit, hlimit, hfits⟩ := hl setup hs
    have hrest (hsizing : WithinLimit ms (sizingMarks s setup)) :
        WithinLimit (ms ++ sizingMarks s setup) (.written (s.frameBlock now today used) :: draws) := by
      have hnone : ∀ m ∈ sizingMarks s setup ++ .written (s.frameBlock now today used) :: draws,
          m.limit? = none := limit?_of_mem_tick hms
      rw [List.forall_mem_append] at hnone
      exact withinLimit_of_forall_eq ((lastLimit?_append_of_forall hnone.1).trans hlimit)
        (fits_nextSetup hlimit (hfits hw) hsizing)
        (fun setup' hm => hms.eq_of_configured (by simpa using hm)) hnone.2
    rw [withinLimit_append, and_iff_left_of_imp hrest, withinLimit_sizingMarks]
    constructor
    · rintro hsize size ⟨-, -, htakes⟩
      exact hsize size htakes
    · intro hsize size htakes
      exact hsize size ⟨hticking, hpending, htakes⟩

/-- No side of a surface is ever zero. -/
theorem SurfaceStep.ne_zero (hstep : SurfaceStep σ s op ns t) (hs : Surfaced s ms) :
    ∀ setup, .configured setup ∈ ns → setup.width ≠ 0 ∧ setup.height ≠ 0 := by
  intro setup' hm
  cases hstep with
  | kept | disposed => cases hm
  | loaded hload =>
    obtain ⟨hwidth, hheight⟩ := size_of_chosenSetup? (hload.of_configured hm).2.1
    omega
  | resized hlive hz =>
    cases List.mem_singleton.1 hm
    exact ⟨hz.1, hz.2.1⟩
  | @ticked now today setup used outcome draws _ hticking hpending hs' hu hms ht hsize =>
    obtain ⟨-, hw, hh, -⟩ := hs.surface setup hs'
    obtain ⟨hwidth, hheight, -⟩ := hs.sizeShown.frameBlock hu now today
    obtain ⟨hsw, hsh⟩ := Prod.mk.inj (size_nextSetup hw hh)
    rw [eq_of_configured_tick hms hm, hsw, hsh]
    exact ⟨hwidth, hheight⟩

end Steps

/-! ## Runs -/

section Runs

variable [Seconds ρ] {s : Session ρ SurfaceRenderer} {op : Operation ρ SurfaceRenderer World}
  {h : Host World}

/-- Every size that the session takes in a run fits the device that was asked for last. -/
def TakesFit (s : Session ρ SurfaceRenderer) (h : Host World)
    (ops : List (Operation ρ SurfaceRenderer World)) : Prop :=
  ∀ before op after, ops = before ++ op :: after → ∀ size, Takes (run s before h).1 size op →
    SizeFits (marks (run s before h).2.graphics.calls) size

theorem takesFit_concat {ops : List (Operation ρ SurfaceRenderer World)} :
    TakesFit s h (ops ++ [op]) ↔ TakesFit s h ops ∧ ∀ size, Takes (run s ops h).1 size op →
      SizeFits (marks (run s ops h).2.graphics.calls) size := by
  constructor
  · intro hfit
    constructor
    · rintro before op' after rfl
      exact hfit before op' (after ++ [op]) (by simp)
    · exact hfit ops op [] rfl
  · rintro ⟨hfit, hlast⟩ before op' after heq
    rcases append_eq_append_cons_cases heq with ⟨l, rfl, -⟩ | ⟨l, rfl, hl⟩
    · exact hfit before op' l rfl
    · rcases l with _ | ⟨_, l⟩
      · obtain ⟨rfl, -⟩ := List.cons.inj hl
        rwa [List.append_nil]
      · simp at hl

theorem limited_run {options : PreviewOptions} (hs : create? options = some s)
    (ops : List (Operation ρ SurfaceRenderer World)) (hops : ∀ op ∈ ops, OnWindowWith op) :
    ∃ ms, Marked h.graphics ms (run s ops h).2.graphics ∧ Surfaced (run s ops h).1 ms ∧
      Limited (run s ops h).1 ms ∧
      (∀ setup, .configured setup ∈ ms → setup.width ≠ 0 ∧ setup.height ≠ 0) ∧
      (WithinLimit [] ms ↔ TakesFit s h ops) := by
  induction ops using List.reverseRecOn with
  | nil =>
    refine ⟨[], .refl _, surfaced_of_create? hs, ?_, nofun, iff_of_true ?_ ?_⟩
    · rw [run_nil_apply, Limited, surface?_eq_none (create?_frame hs).2.1]
      nofun
    · exact withinLimit_of_forall fun _ => List.not_mem_nil
    · intro before op after heq
      simp at heq
  | append_singleton ops op ih =>
    rw [List.forall_mem_append, List.forall_mem_singleton] at hops
    obtain ⟨ms, hms, hsurfaced, hlimited, hzero, hiff⟩ := ih hops.1
    obtain ⟨ns, hns, hstep, hsurfaced'⟩ := hsurfaced.operate (h := (run s ops h).2) hops.2
    have hrun : run s (ops ++ [op]) h =
        (run s ops h).1.operate op (run s ops h).2 := by
      rw [run_append_apply]
      rfl
    rw [hrun]
    refine ⟨ms ++ ns, hms.trans hns, hsurfaced', limited_of_step hlimited hstep, ?_, ?_⟩
    · intro setup hm
      rcases List.mem_append.1 hm with hm | hm
      · exact hzero setup hm
      · exact hstep.ne_zero hsurfaced setup hm
    · rw [withinLimit_append, takesFit_concat, ← hiff, List.nil_append]
      refine and_congr_right fun hw => (hstep.withinLimit_iff hlimited hw).trans ?_
      refine forall_congr' fun size => forall_congr' fun htakes => ?_
      rw [show marks (run s ops h).2.graphics.calls = _ from hms,
        hlimited.sizeFits_append_iff hsurfaced.toCoherent htakes]

/-- In every run of a session on windows, no side of a surface is zero whenever it is set up, and
none is larger than the device allows exactly if no size that the session takes is. -/
theorem withinLimit_iff_takesFit {options : PreviewOptions} {s₀ s : Session ρ SurfaceRenderer}
    {h₀ h : Host World} {ops : List (Operation ρ SurfaceRenderer World)}
    (hs₀ : create? options = some s₀) (hops : ∀ op ∈ ops, OnWindowWith op)
    (hrun : run s₀ ops h₀ = (s, h)) :
    ∃ ms, Marked h₀.graphics ms h.graphics ∧
      (∀ setup, .configured setup ∈ ms → setup.width ≠ 0 ∧ setup.height ≠ 0) ∧
      (WithinLimit [] ms ↔ TakesFit s₀ h₀ ops) := by
  obtain ⟨ms, hms, -, -, hzero, hiff⟩ := limited_run (h := h₀) hs₀ ops hops
  rw [hrun] at hms
  exact ⟨ms, hms, hzero, hiff⟩

/-- A shader is loaded on a window, which then gets another size. -/
def resizedPreview (width height : Nat) : List (Operation Float SurfaceRenderer World) :=
  [.load blankShader 320 240 (connectToWith Glsl.check id ⟨true, true⟩ .default),
    .resize width height]

theorem onWindowWith_resizedPreview (width height : Nat) :
    ∀ op ∈ resizedPreview width height, OnWindowWith op :=
  List.forall_mem_cons.2 ⟨⟨Glsl.check, id, _, _, rfl⟩, List.forall_mem_singleton.2 trivial⟩

/-- The session behind the load, and the marks up to there. -/
theorem surface_load_blankShader : ∃ (s : Session Float SurfaceRenderer) (h : Host World)
    (r : SurfaceRenderer),
    freshSession.operate
        (.load blankShader 320 240 (connectToWith Glsl.check id ⟨true, true⟩ .default)) windowHost =
      (s, h) ∧
      s.phase = .ready ∧ (s.width, s.height) = (320, 240) ∧ s.renderer = some r ∧
      Marked windowHost.graphics
        [.opened, .limited Script.default.maxDimension, .configured r.setup] h.graphics := by
  obtain ⟨s, h, hload, -⟩ := load_blankShader
  obtain ⟨hd, a, remarks, r, -, hs⟩ := load_eq_ok hload
  obtain ⟨ms, hms, hmarks⟩ :=
    marked_load windowHost hd blankShader 320 240 Glsl.check id ⟨true, true⟩ .default
  rw [hload] at hms hmarks
  refine ⟨s, h, r, ?_, by rw [hs]; rfl, by rw [hs]; rfl, by rw [hs]; rfl, ?_⟩
  · rw [operate, bind_apply, hload]
    rfl
  · cases hmarks with
    | unread ht =>
      rw [hs] at ht
      cases ht
    | @connected result _ hconnect ht =>
      rw [hs] at ht
      rcases result with e | r'
      · cases ht
      · have hsetup : r.setup = r'.setup := Option.some.inj ht
        rw [(hconnect.of_configured hconnect.of_ok).1, ← hsetup] at hms
        exact hms

theorem marked_resizedPreview (width height : Nat) (hw : width ≠ 0) (hh : height ≠ 0)
    (hne : (320, 240) ≠ (width, height)) : ∃ setup : SurfaceSetup,
    Marked windowHost.graphics
      [.opened, .limited Script.default.maxDimension, .configured setup,
        .configured (setup.withSize width height)]
      (run freshSession (resizedPreview width height) windowHost).2.graphics := by
  obtain ⟨s, h, r, hload, hphase, hsize, hr, hms⟩ := surface_load_blankShader
  have hl : s.phase.isLive := by
    rw [hphase]
    rfl
  have hz : s.Resizes width height := ⟨hw, hh, by rwa [hsize]⟩
  refine ⟨r.setup, ?_⟩
  rw [resizedPreview, run_cons_apply, hload]
  exact hms.trans (marked_resize h hl hz hr).2

theorem withinLimit_iff_takesFit_resizedPreview : ∃ ms,
    Marked windowHost.graphics ms (run freshSession (resizedPreview 800 600) windowHost).2.graphics ∧
      (∀ setup, .configured setup ∈ ms → setup.width ≠ 0 ∧ setup.height ≠ 0) ∧
      WithinLimit [] ms := by
  rcases hrun : run freshSession (resizedPreview 800 600) windowHost with ⟨s', h'⟩
  obtain ⟨ms, hms, hzero, hiff⟩ :=
    withinLimit_iff_takesFit create?_default (onWindowWith_resizedPreview 800 600) hrun
  refine ⟨ms, hms, hzero, hiff.2 ?_⟩
  obtain ⟨s, h, r, hload, -, -, -, hms⟩ := surface_load_blankShader
  intro before op after heq size htakes
  rcases before with _ | ⟨_, _ | ⟨_, before⟩⟩
  · obtain ⟨rfl, -⟩ := List.cons.inj heq
    exact htakes.elim
  · simp only [resizedPreview, List.cons_append, List.nil_append, List.cons.injEq] at heq
    obtain ⟨rfl, rfl, -⟩ := heq
    obtain ⟨-, -, rfl⟩ := htakes
    rw [run_cons_apply, hload, run_nil_apply]
    exact ⟨Script.default.maxDimension, congrArg lastLimit? hms, by decide⟩
  · simp [resizedPreview] at heq

/-- A window can be given a size that its device does not allow. -/
theorem not_withinLimit_resizedPreview : ∃ ms,
    Marked windowHost.graphics ms (run freshSession (resizedPreview 9000 240) windowHost).2.graphics ∧
      ¬ WithinLimit [] ms ∧
      ∃ setup, .configured setup ∈ ms ∧ Script.default.maxDimension < setup.width := by
  obtain ⟨setup, hms⟩ := marked_resizedPreview 9000 240 (by decide) (by decide) (by decide)
  have hlarge : Script.default.maxDimension < (setup.withSize 9000 240).width :=
    show 8192 < 9000 by decide
  refine ⟨_, hms, ?_, setup.withSize 9000 240, by simp, hlarge⟩
  intro hw
  obtain ⟨limit, hlimit, hfits⟩ := hw [.opened, .limited Script.default.maxDimension,
    .configured setup] (setup.withSize 9000 240) [] rfl
  cases hlimit
  exact absurd hfits.1 (Nat.not_le.2 hlarge)

end Runs

end Gpu

end ShaderPreview
