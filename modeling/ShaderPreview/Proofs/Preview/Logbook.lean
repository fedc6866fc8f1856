import ShaderPreview.Proofs.Preview.Effect

/-!
# Logged renderers

A `Logbook` is a graphics world with a log of what its renderers were asked.  A `Logged` renderer is
a renderer of the world below with a number; it enters each of its calls into the logbook and
otherwise does what the renderer below does.  A logged connection enters what came of it and
numbers its renderer by its place in the log, so that no number is given twice.

`Entered` says which entries the way from one host to another made, where it left the tick queue
and the snapshots alone.  Each part of a tick has a lemma that names its entries.
-/

namespace ShaderPreview

/-- A call of a renderer.  All but the release tell which renderer they left behind. -/
inductive RendererCall (β : Type) where
  | configure (width height : Nat) (behind : β)
  | writeUniforms (block : UniformBlock) (behind : β)
  | pollTimer (answer : TimerPoll) (behind : β)
  | draw (timed : Bool) (outcome : DrawOutcome) (behind : β)
  | release

/-- An entry of a logbook. -/
inductive LogEntry (β : Type) where
  /-- A connection was made; its renderer has the number. -/
  | connected (number : Nat)
  /-- A connection was refused. -/
  | refused (e : ConnectError)
  /-- The renderer with the number was called. -/
  | called (number : Nat) (call : RendererCall β)

/-- A renderer with a number. -/
structure Logged (β : Type) where
  number : Nat
  renderer : β

/-- A graphics world and what its renderers were asked, oldest first. -/
structure Logbook (G β : Type) where
  graphics : G
  entries : List (LogEntry β)

namespace Logbook

variable {G β α : Type}

/-- Acts on the world below and enters what came of it. -/
def entering (act : StateM G α) (entry : α → LogEntry β) : StateM (Logbook G β) α := fun g =>
  let (a, world) := act g.graphics
  (a, ⟨world, g.entries ++ [entry a]⟩)

instance [Journal G] : Journal (Logbook G β) where
  note e := fun g => ((), { g with graphics := (Journal.note e g.graphics).2 })

instance [Renderer G β] : Renderer (Logbook G β) (Logged β) where
  configure r width height := do
    let behind ← entering (Renderer.configure r.renderer width height)
      fun behind => .called r.number (.configure width height behind)
    return { r with renderer := behind }
  writeUniforms r block := do
    let behind ← entering (Renderer.writeUniforms r.renderer block)
      fun behind => .called r.number (.writeUniforms block behind)
    return { r with renderer := behind }
  hasTimer r := Renderer.hasTimer G r.renderer
  pollTimer r := do
    let (answer, behind) ← entering (Renderer.pollTimer r.renderer)
      fun (answer, behind) => .called r.number (.pollTimer answer behind)
    return (answer, { r with renderer := behind })
  draw r timed := do
    let (outcome, behind) ← entering (Renderer.draw r.renderer timed)
      fun (outcome, behind) => .called r.number (.draw timed outcome behind)
    return (outcome, { r with renderer := behind })
  warningCount r g := Renderer.warningCount r.renderer g.graphics
  release r := entering (Renderer.release r.renderer) fun _ => .called r.number .release

section Renderer

variable [Renderer G β] (r : Logged β) (g : Logbook G β)

theorem writeUniforms_apply (block : UniformBlock) : Renderer.writeUniforms r block g =
    (⟨r.number, (Renderer.writeUniforms r.renderer block g.graphics).1⟩,
      ⟨(Renderer.writeUniforms r.renderer block g.graphics).2, g.entries ++
        [.called r.number (.writeUniforms block
          (Renderer.writeUniforms r.renderer block g.graphics).1)]⟩) := rfl

theorem pollTimer_apply : Renderer.pollTimer r g =
    (((Renderer.pollTimer r.renderer g.graphics).1.1,
        ⟨r.number, (Renderer.pollTimer r.renderer g.graphics).1.2⟩),
      ⟨(Renderer.pollTimer r.renderer g.graphics).2, g.entries ++
        [.called r.number (.pollTimer (Renderer.pollTimer r.renderer g.graphics).1.1
          (Renderer.pollTimer r.renderer g.graphics).1.2)]⟩) := rfl

theorem draw_apply (timed : Bool) : Renderer.draw r timed g =
    (((Renderer.draw r.renderer timed g.graphics).1.1,
        ⟨r.number, (Renderer.draw r.renderer timed g.graphics).1.2⟩),
      ⟨(Renderer.draw r.renderer timed g.graphics).2, g.entries ++
        [.called r.number (.draw timed (Renderer.draw r.renderer timed g.graphics).1.1
          (Renderer.draw r.renderer timed g.graphics).1.2)]⟩) := rfl

end Renderer

/-- Makes a connection and enters what came of it. -/
def connect (make : Shader.Assembly → Nat → Nat → StateM G (Except ConnectError β))
    (a : Shader.Assembly) (width height : Nat) :
    StateM (Logbook G β) (Except ConnectError (Logged β)) := fun g =>
  match make a width height g.graphics with
  | (.ok r, world) =>
    (.ok ⟨g.entries.length, r⟩, ⟨world, g.entries ++ [.connected g.entries.length]⟩)
  | (.error e, world) => (.error e, ⟨world, g.entries ++ [.refused e]⟩)

theorem connect_cases
    (make : Shader.Assembly → Nat → Nat → StateM G (Except ConnectError β))
    (a : Shader.Assembly) (width height : Nat) (g : Logbook G β) :
    (∃ r world, connect make a width height g =
        (.ok ⟨g.entries.length, r⟩, ⟨world, g.entries ++ [.connected g.entries.length]⟩)) ∨
      ∃ e world, connect make a width height g =
        (.error e, ⟨world, g.entries ++ [.refused e]⟩) := by
  unfold connect
  rcases make a width height g.graphics with ⟨e | r, world⟩
  · exact Or.inr ⟨e, world, rfl⟩
  · exact Or.inl ⟨r, world, rfl⟩

end Logbook

/-- The operation with a connection that is logged. -/
def Operation.logged {ρ β G : Type} : Operation ρ β G → Operation ρ (Logged β) (Logbook G β)
  | load source width height connect => .load source width height (Logbook.connect connect)
  | start => .start
  | setPaused paused time => .setPaused paused time
  | halt => .halt
  | resize width height => .resize width height
  | requestSize width height => .requestSize width height
  | pointerMoved x y => .pointerMoved x y
  | pointerPressed x y => .pointerPressed x y
  | tick now today => .tick now today
  | dispose => .dispose

/-! ## Entries -/

section Entered

variable {G β : Type}

/-- Some entries were made between two hosts, and no tick was asked for or withdrawn and no snapshot
published. -/
structure Entered (h : Host (Logbook G β)) (entries : List (LogEntry β))
    (h' : Host (Logbook G β)) : Prop where
  entries : h'.graphics.entries = h.graphics.entries ++ entries
  ticks : h'.ticks = h.ticks
  published : h'.published = h.published

namespace Entered

theorem refl (h : Host (Logbook G β)) : Entered h [] h :=
  ⟨(List.append_nil _).symm, rfl, rfl⟩

theorem trans {h₁ h₂ h₃ : Host (Logbook G β)} {es fs : List (LogEntry β)}
    (h₁₂ : Entered h₁ es h₂) (h₂₃ : Entered h₂ fs h₃) : Entered h₁ (es ++ fs) h₃ where
  entries := by rw [h₂₃.entries, h₁₂.entries, List.append_assoc]
  ticks := h₂₃.ticks.trans h₁₂.ticks
  published := h₂₃.published.trans h₁₂.published

theorem note [Journal G] (h : Host (Logbook G β)) (e : Event) :
    Entered h [] (Host.note e h).2 :=
  ⟨(List.append_nil _).symm, rfl, rfl⟩

end Entered

end Entered

namespace Session

variable {ρ β G : Type} [Journal G] {s : Session ρ (Logged β)} (h : Host (Logbook G β))

/-! ## Quiet parts -/

theorem entered_probeRate (now : Nat) : Entered h [] (probeRate s now h).2 := by
  unfold probeRate
  rcases s.probe.record now with ⟨finding, probe⟩
  cases finding with
  | nothing => exact .refl h
  | noInterval => exact .note h _
  | rate hz => exact (Entered.note h _).trans (.note _ _)

theorem entered_recordGpu (ms : Float) : Entered h [] (recordGpu s ms h).2 := by
  unfold recordGpu
  split
  · exact .refl h
  · exact .note h _

theorem entered_noteAssembled (remarks : Shader.Remarks) :
    Entered h [] (noteAssembled remarks h).2 := by
  unfold noteAssembled
  split
  · exact (Entered.note h _).trans (.note _ _)
  · exact .note h _

theorem publishIfDue_entries : (publishIfDue s h).2.graphics.entries = h.graphics.entries := by
  unfold publishIfDue
  split <;> rfl

/-! ## Parts that call the renderer -/

variable [Renderer G β] {r : Logged β}

theorem entered_resize_of_resizes {width height : Nat} (hl : s.phase.isLive)
    (hz : s.Resizes width height) (hr : s.renderer = some r) : ∃ resized : β,
    (resize s width height h).1.renderer = some ⟨r.number, resized⟩ ∧
      Entered h [.called r.number (.configure width height resized)]
        (resize s width height h).2 := by
  rw [resize_of_resizes s h hl hz hr]
  exact ⟨_, rfl, rfl, rfl, rfl⟩

theorem entered_applyRequestedSize (hl : s.phase.isLive) (hr : s.renderer = some r) :
    ∃ resized : β, (applyRequestedSize s h).1.renderer = some ⟨r.number, resized⟩ ∧
      Entered h (s.sizeToApply.toList.map fun (width, height) =>
          .called r.number (.configure width height resized))
        (applyRequestedSize s h).2 := by
  unfold applyRequestedSize
  rcases hq : s.requestedSize with _ | ⟨width, height⟩
  · refine ⟨r.renderer, hr, ?_⟩
    have hn : s.sizeToApply = none := by simp [sizeToApply, hq]
    rw [hn]
    exact .refl h
  · simp only
    by_cases hz : s.Resizes width height
    · obtain ⟨resized, h₁, h₂⟩ :=
        entered_resize_of_resizes (s := { s with requestedSize := none }) h hl hz hr
      have hn : s.sizeToApply = some (width, height) := sizeToApply_eq_some_iff.2 ⟨hq, hz⟩
      rw [hn]
      exact ⟨resized, h₁, h₂⟩
    · rw [resize_eq_pure { s with requestedSize := none } fun hc => hz hc.2.1,
        sizeToApply_eq_none hq hz]
      exact ⟨r.renderer, hr, .refl h⟩

theorem entered_pollTimer (r : Logged β) :
    ∃ (poll : Option (TimerPoll × β)) (polled : β),
      (pollTimer s r h).1.2.1 = ⟨r.number, polled⟩ ∧
      (pollTimer s r h).1.2.2 = s.withPoll (poll.map Prod.fst) ∧
      (poll.isSome ↔ Renderer.hasTimer G r.renderer) ∧
      ((pollTimer s r h).1.1 ↔
        Renderer.hasTimer G r.renderer ∧ ∀ behind, poll ≠ some (.pending, behind)) ∧
      Entered h (poll.toList.map fun (answer, behind) =>
        .called r.number (.pollTimer answer behind)) (pollTimer s r h).2 := by
  unfold pollTimer
  have ht : Renderer.hasTimer (Logbook G β) r = Renderer.hasTimer G r.renderer := rfl
  rw [ht]
  rcases Renderer.hasTimer G r.renderer
  · exact ⟨none, r.renderer, rfl, rfl, by simp, by simp, .refl h⟩
  · simp only [Bool.not_true, Bool.false_eq_true, if_false, bind_apply, Host.onGraphics_apply]
    rw [Logbook.pollTimer_apply]
    rcases Renderer.pollTimer r.renderer h.graphics.graphics with ⟨⟨answer, behind⟩, world⟩
    refine ⟨some (answer, behind), behind, ?_⟩
    cases answer with
    | idle => exact ⟨rfl, rfl, by simp, by simp, rfl, rfl, rfl⟩
    | pending => exact ⟨rfl, rfl, by simp, by simp, rfl, rfl, rfl⟩
    | ready ms =>
      have hpoll : Entered h [.called r.number (.pollTimer (.ready ms) behind)]
          { h with graphics := ⟨world, _⟩ } := ⟨rfl, rfl, rfl⟩
      exact ⟨rfl, recordGpu_fst _ ms, by simp, by simp, hpoll.trans (entered_recordGpu _ ms)⟩

omit [Journal G] in
theorem entered_releaseRenderer (hr : s.renderer = some r) :
    Entered h [.called r.number .release] (releaseRenderer s h).2 := by
  unfold releaseRenderer
  rw [hr]
  exact ⟨rfl, rfl, rfl⟩

theorem entered_dispose (hd : s.phase ≠ .disposed) (hp : s.pendingTick = none)
    (hr : s.renderer = some r) : Entered h [.called r.number .release] (dispose s h).2 := by
  have hc : cancelPending s h = (s, h) := by
    unfold cancelPending
    rw [hp]
    rfl
  unfold dispose
  rw [if_neg hd]
  simp only [bind_apply, pure_apply, teardown]
  rw [hc]
  exact (entered_releaseRenderer h hr).trans (.note _ _)

end Session

end ShaderPreview
