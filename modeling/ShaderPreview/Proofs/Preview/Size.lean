import ShaderPreview.Proofs.Preview.Reload

/-!
# The size of a session

The size of a session is kept three times: by the session itself, in the uniform block of its
shader, and by its renderer.  In every session with a shader the first two agree, and no side is
zero (`sizeShown_run`), for the size is among the uniforms of every shader.
-/

namespace ShaderPreview

/-- The resolution that a shader reads of a size. -/
def Resolution.ofSize (width height : Nat) : Resolution :=
  ⟨Float32.ofNat width, Float32.ofNat height, 1⟩

theorem UniformBlock.resolution_writeResolution {used : Shader.UniformSet} (width height : Nat)
    (b : UniformBlock) (hu : used.contains .resolution) :
    (b.writeResolution used width height).resolution = .ofSize width height := by
  rw [writeResolution, if_pos hu]
  rfl

/-- The generated code reads the size, whatever the source does. -/
theorem Shader.Assembly.contains_resolution {source : List Char} {a : Assembly} {remarks : Remarks}
    (h : Assembly.read source = .ok (a, remarks)) : a.uniforms.contains .resolution := by
  unfold Assembly.read at h
  rcases hloc : EntryPoint.locate (tokens (keptText (fates source))) with e | e
  · simp [hloc, Except.map] at h
  · simp only [hloc, Except.map, Except.ok.injEq, Prod.mk.injEq] at h
    rw [← h.1]
    rfl

namespace Session

variable {ρ β G : Type} {s t : Session ρ β}

/-- The shader reads the size, no side of it is zero, and the uniform block shows it. -/
structure ShowsSize (s : Session ρ β) (used : Shader.UniformSet) : Prop where
  contains : used.contains .resolution
  width_ne_zero : s.width ≠ 0
  height_ne_zero : s.height ≠ 0
  resolution : s.block.resolution = .ofSize s.width s.height

/-- If there is a shader, its uniform block shows the size. -/
def SizeShown (s : Session ρ β) : Prop := ∀ used ∈ s.used, s.ShowsSize used

theorem sizeShown_of_used_eq_none (hu : s.used = none) : SizeShown s := by
  intro used hused
  rw [hu] at hused
  cases hused

/-- What the size is shown by stays the same. -/
theorem SizeShown.congr (hs : SizeShown s) (hu : t.used = s.used) (hw : t.width = s.width)
    (hh : t.height = s.height) (hb : t.block.resolution = s.block.resolution) : SizeShown t := by
  intro used hused
  obtain ⟨hc, hwidth, hheight, hr⟩ := hs used (hu ▸ hused)
  exact ⟨hc, hw ▸ hwidth, hh ▸ hheight, by rw [hb, hw, hh, hr]⟩

theorem sizeShown_withSize {width height : Nat} (hs : SizeShown s) (hw : width ≠ 0)
    (hh : height ≠ 0) : SizeShown (s.withSize width height) := by
  intro used (hused : s.used = some used)
  refine ⟨(hs used hused).contains, hw, hh, ?_⟩
  simp only [withSize, hused]
  exact UniformBlock.resolution_writeResolution width height _ (hs used hused).contains

theorem sizeShown_withRequestedSize (hs : SizeShown s) : SizeShown s.withRequestedSize := by
  rcases hn : s.sizeToApply with _ | ⟨width, height⟩
  · rw [withRequestedSize_of_eq_none hn]
    exact hs.congr rfl rfl rfl rfl
  · rw [withRequestedSize_of_eq_some hn]
    obtain ⟨-, hw, hh, -⟩ := sizeToApply_eq_some_iff.1 hn
    exact (sizeShown_withSize hs hw hh).congr rfl rfl rfl rfl

section Steps

variable [Seconds ρ]

/-- The uniforms that a tick writes show the size at which it draws. -/
theorem SizeShown.frameBlock {used : Shader.UniformSet} (hs : SizeShown s)
    (hu : s.used = some used) (now : Nat) (today : Date) :
    s.nextSize.1 ≠ 0 ∧ s.nextSize.2 ≠ 0 ∧
      (s.frameBlock now today used).resolution = .ofSize s.nextSize.1 s.nextSize.2 := by
  obtain ⟨-, hwidth, hheight, hresolution⟩ := sizeShown_withRequestedSize hs used hu
  exact ⟨hwidth, hheight, hresolution⟩

theorem sizeShown_drawing (hs : SizeShown s) (now : Nat) (today : Date)
    (used : Shader.UniformSet) (poll : Option TimerPoll) (r : β) :
    SizeShown (s.drawing now today used poll r) :=
  (sizeShown_withRequestedSize hs).congr rfl rfl rfl rfl

omit [Seconds ρ] in
theorem sizeShown_drawn (hs : SizeShown s) (now token : Nat) (outcome : DrawOutcome) :
    SizeShown (s.drawn now token outcome) := by
  cases outcome with
  | failed reason => exact sizeShown_of_used_eq_none rfl
  | _ => exact hs.congr rfl rfl rfl rfl

theorem sizeShown_withShader {a : Shader.Assembly} {width height : Nat} (r : β)
    (ha : a.uniforms.contains .resolution) :
    SizeShown (s.withShader a (max width 1) (max height 1) r) := by
  rintro used ⟨⟩
  refine ⟨ha, ?_, ?_, UniformBlock.resolution_writeResolution _ _ _ ha⟩
  · show max width 1 ≠ 0
    omega
  · show max height 1 ≠ 0
    omega

/-- Every step but a load that succeeds. -/
theorem StepsTo.sizeShown {op : Operation ρ β G} (h : StepsTo s op t) (hs : SizeShown s)
    (hload : ∀ source width height connect, op ≠ .load source width height connect) :
    SizeShown t := by
  cases h with
  | ignored hi => exact hs
  | loaded => exact absurd rfl (hload _ _ _ _)
  | unloaded hd => exact absurd rfl (hload _ _ _ _)
  | resized hl hz r => exact (sizeShown_withSize hs hz.1 hz.2.1).congr rfl rfl rfl rfl
  | ticked ht hp hu poll r outcome token =>
    exact sizeShown_drawn (sizeShown_drawing hs _ _ _ poll r) _ token outcome
  | disposed hd => exact sizeShown_of_used_eq_none rfl
  | _ => exact hs.congr rfl rfl rfl rfl

variable [Renderer G β] [Journal G]

theorem sizeShown_load (h : Host G) (source : List Char) (width height : Nat)
    (connect : Shader.Assembly → Nat → Nat → StateM G (Except ConnectError β))
    (hs : SizeShown s) : SizeShown (load s source width height connect h).1.2 := by
  rcases hl : load s source width height connect h with ⟨⟨e | ⟨⟩, s'⟩, h'⟩
  · by_cases hd : s.phase = .disposed
    · rw [load_of_disposed s source width height connect hd] at hl
      cases hl
      exact hs
    · rcases load_frame s h source width height connect hd with ⟨a, r, hok⟩ | ⟨e', herror⟩
      · rw [hl] at hok
        cases hok
      · rw [hl] at herror
        cases herror
        exact sizeShown_of_used_eq_none rfl
  · obtain ⟨-, a, remarks, r, ha, rfl⟩ := load_eq_ok hl
    exact sizeShown_withShader r (Shader.Assembly.contains_resolution ha)

theorem sizeShown_operate (h : Host G) (op : Operation ρ β G) (hc : Coherent s)
    (hs : SizeShown s) : SizeShown (operate s op h).1 := by
  cases op with
  | load source width height connect => exact sizeShown_load h source width height connect hs
  | _ => exact (stepsTo_operate h _ hc).sizeShown hs nofun

theorem sizeShown_run (h : Host G) (ops : List (Operation ρ β G)) (hc : Coherent s)
    (hs : SizeShown s) : SizeShown (run s ops h).1 := by
  refine (run_induction (P := fun t _ => Coherent t ∧ SizeShown t) ops ?_ ⟨hc, hs⟩).2
  rintro op - t h ⟨ht, hst⟩
  exact ⟨coherent_operate h op ht, sizeShown_operate h op ht hst⟩

theorem sizeShown_of_create? {options : PreviewOptions} (hs : create? options = some s) :
    SizeShown s := sizeShown_of_used_eq_none (create?_frame hs).2.2.1

/-- In a reachable session with a shader the uniform block shows the size. -/
theorem Reachable.sizeShown (hs : Reachable G s) : SizeShown s := by
  obtain ⟨options, s₀, ops, h, hcreate, rfl⟩ := hs
  exact sizeShown_run h ops (coherent_of_create? hcreate) (sizeShown_of_create? hcreate)

end Steps

end Session

end ShaderPreview
