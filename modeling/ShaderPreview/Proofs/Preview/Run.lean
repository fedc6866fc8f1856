import ShaderPreview.Preview.Session

/-!
# Runs of a session

An `Operation` is something that can be asked of a session.  `operate` carries out one operation,
`run` a list of them in order, and a session is `Reachable` if a run leads to it from a new one.

`run_induction` is the rule by which what every operation keeps is kept by every run.  The other
lemmas say what the parts of a session do when they are applied to a host: each is an equation
between the answer and host behind and those before, so that no later proof opens a computation.
-/

namespace ShaderPreview

/-- Something asked of a session.  A load brings along the way in which it finds a renderer. -/
inductive Operation (ρ β G : Type) where
  | load (source : List Char) (width height : Nat)
      (connect : Shader.Assembly → Nat → Nat → StateM G (Except ConnectError β))
  | start
  | setPaused (paused : Bool) (time : ρ)
  | halt
  | resize (width height : Nat)
  | requestSize (width height : Nat)
  | pointerMoved (x y : Float32)
  | pointerPressed (x y : Float32)
  | tick (now : Nat) (today : Date)
  | dispose

/-- An element of two lists in a row stands in one of them. -/
theorem append_eq_append_cons_cases {α : Type} {as bs pre post : List α} {a : α}
    (h : as ++ bs = pre ++ a :: post) :
    (∃ l, as = pre ++ a :: l ∧ post = l ++ bs) ∨ ∃ l, pre = as ++ l ∧ bs = l ++ a :: post := by
  rcases List.append_eq_append_iff.1 h with ⟨l, hpre, hbs⟩ | ⟨_ | ⟨b, l⟩, has, hpost⟩
  · exact Or.inr ⟨l, hpre, hbs⟩
  · exact Or.inr ⟨[], by rw [has, List.append_nil, List.append_nil], hpost.symm⟩
  · obtain ⟨rfl, hl⟩ := List.cons.inj hpost
    exact Or.inl ⟨l, has, hl⟩

/-! ## Computations on a host -/

section Host

variable {G α γ : Type} {σ : Type}

@[simp] theorem pure_apply (a : α) (x : σ) : (pure a : StateM σ α) x = (a, x) := rfl

@[simp] theorem bind_apply (m : StateM σ α) (f : α → StateM σ γ) (x : σ) :
    (m >>= f) x = f (m x).1 (m x).2 := rfl

namespace Host

variable (h : Host G)

@[simp] theorem onGraphics_apply (act : StateM G α) :
    onGraphics act h = ((act h.graphics).1, { h with graphics := (act h.graphics).2 }) := rfl

@[simp] theorem note_apply [Journal G] (e : Event) :
    note e h = ((), { h with graphics := (Journal.note e h.graphics).2 }) := rfl

@[simp] theorem requestTick_apply :
    requestTick h = (h.ticks.request.1, { h with ticks := h.ticks.request.2 }) := rfl

@[simp] theorem cancelTick_apply (token : Nat) :
    cancelTick token h = ((), { h with ticks := h.ticks.cancel token }) := rfl

@[simp] theorem publish_apply (s : Snapshot) :
    publish s h = ((), { h with published := h.published ++ [s] }) := rfl

end Host

end Host

namespace Session

variable {ρ β G : Type} [Seconds ρ] [Renderer G β] [Journal G]

/-- Carries out an operation. -/
def operate (s : Session ρ β) : Operation ρ β G → StateM (Host G) (Session ρ β)
  | .load source width height connect => do
    let (_, s) ← s.load source width height connect
    return s
  | .start => s.start
  | .setPaused paused time => s.setPaused paused time
  | .halt => s.halt
  | .resize width height => s.resize width height
  | .requestSize width height => return s.requestSize width height
  | .pointerMoved x y => return s.pointerMoved x y
  | .pointerPressed x y => return s.pointerPressed x y
  | .tick now today => s.tick now today
  | .dispose => s.dispose

/-- Carries out operations in order. -/
def run (s : Session ρ β) (ops : List (Operation ρ β G)) : StateM (Host G) (Session ρ β) :=
  ops.foldlM operate s

/-- Some run on some host leads to the session from a new one. -/
def Reachable (G : Type) [Renderer G β] [Journal G] (s : Session ρ β) : Prop :=
  ∃ (options : PreviewOptions) (s₀ : Session ρ β) (ops : List (Operation ρ β G)) (h : Host G),
    create? options = some s₀ ∧ (run s₀ ops h).1 = s

@[simp] theorem run_nil_apply (s : Session ρ β) (h : Host G) :
    run s ([] : List (Operation ρ β G)) h = (s, h) := rfl

@[simp] theorem run_cons_apply (s : Session ρ β) (op : Operation ρ β G)
    (ops : List (Operation ρ β G)) (h : Host G) :
    run s (op :: ops) h = run (operate s op h).1 ops (operate s op h).2 := rfl

theorem run_append_apply (s : Session ρ β) (ops ops' : List (Operation ρ β G)) (h : Host G) :
    run s (ops ++ ops') h = run (run s ops h).1 ops' (run s ops h).2 := by
  simp only [run, List.foldlM_append, bind_apply]

/-- What each of the operations keeps is kept by their run. -/
theorem run_induction {P : Session ρ β → Host G → Prop} (ops : List (Operation ρ β G))
    (step : ∀ op ∈ ops, ∀ s h, P s h → P (operate s op h).1 (operate s op h).2)
    {s : Session ρ β} {h : Host G} (hs : P s h) : P (run s ops h).1 (run s ops h).2 := by
  induction ops generalizing s h with
  | nil => exact hs
  | cons op ops ih =>
    exact ih (fun op' hop => step op' (List.mem_cons_of_mem _ hop))
      (step op List.mem_cons_self s h hs)

end Session

end ShaderPreview
