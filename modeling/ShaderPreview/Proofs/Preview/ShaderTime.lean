import ShaderPreview.Proofs.Preview.Effect
import ShaderPreview.Proofs.Preview.ExactClock

/-!
# Shader time never runs backwards

In a `Timely` run no instant is before an earlier one, and the clock is paused and resumed with its
own reading.  Such a run carries the reading of the clock along: no operation lets it fall, and none
adds more than the time that went by.  So the ticks of the run show times that never fall; they show
the frozen time while the clock is paused, and keep pace with the instants while it runs.
-/

namespace ShaderPreview

/-- The times of a tick. -/
structure TickTime (ρ : Type) where
  now : Nat
  /-- The shader time. -/
  elapsed : ρ
  /-- The time since the last tick. -/
  delta : ρ
  /-- Where the clock stands still, if it is paused. -/
  frozen : Option ρ

/-- What a run does with the clock. -/
inductive ClockEvent (ρ : Type) where
  | ticked (t : TickTime ρ)
  | pauseSet

namespace ClockEvent

/-- The times of the tick, if it is one. -/
def tickTime? {ρ : Type} : ClockEvent ρ → Option (TickTime ρ)
  | ticked t => some t
  | pauseSet => none

end ClockEvent

namespace Clock

/-- The times of a tick of the clock. -/
def tickTime {ρ : Type} [Seconds ρ] (c : Clock ρ) (now : Nat) : TickTime ρ where
  now
  elapsed := (c.advance now).1
  delta := (c.advance now).2.1
  frozen := if c.paused then some c.frozen else none

section TickTime

variable {c : Clock ℚ} {now : Nat}

end TickTime

/-- The property is kept by all that a session does with its clock. -/
structure Keeps {ρ : Type} [Seconds ρ] (P : Clock ρ → Prop) : Prop where
  restarted {c : Clock ρ} (hc : P c) : P c.restarted
  setPaused {c : Clock ρ} (hc : P c) (paused : Bool) (time : ρ) : P (c.setPaused paused time)
  advance {c : Clock ρ} (hc : P c) (now : Nat) : P (c.advance now).2.2
  ticked {c : Clock ρ} (hc : P c) (now : Nat) : P { c with previousTick := some now }

theorem keeps_nonNegative : Keeps NonNegative where
  restarted hc := hc.restarted
  setPaused hc := hc.setPaused
  advance hc := hc.advance
  ticked hc _ := ⟨hc.offset, hc.frozen, hc.resumeFrom⟩

end Clock

namespace Operation

variable {ρ β G : Type}

end Operation

namespace Session

variable {ρ β G : Type}

/-! ## The clock behind an operation -/

section Clock

variable [Seconds ρ] {s t : Session ρ β}

theorem StepsTo.phase_of_disposed {op : Operation ρ β G} (h : StepsTo s op t)
    (hd : s.phase = .disposed) : t.phase = .disposed := by
  have hl : s.phase.isLive = false := by rw [hd]; rfl
  have ht : s.phase.isTicking = false := by rw [hd]; rfl
  cases h with
  | started hr => exact absurd (hd.symm.trans hr) (by decide)
  | resized hl' => exact absurd hl' (by simp [hl])
  | pointerMoved hl' => exact absurd hl' (by simp [hl])
  | pointerPressed hl' => exact absurd hl' (by simp [hl])
  | halted ht' => exact absurd ht' (by simp [ht])
  | ticked ht' => exact absurd ht' (by simp [ht])
  | loaded hd' => exact absurd hd hd'
  | unloaded hd' => exact absurd hd hd'
  | paused hd' => exact absurd hd hd'
  | disposed => rfl
  | ignored => exact hd
  | sizeRequested => exact hd

theorem StepsTo.keeps_clock {P : ShaderPreview.Clock ρ → Prop} (hP : Clock.Keeps P)
    {op : Operation ρ β G} (h : StepsTo s op t) (hs : P s.clock) : P t.clock := by
  cases h with
  | loaded => exact hP.restarted hs
  | paused => exact hP.setPaused hs _ _
  | @ticked now _ _ _ _ _ _ _ outcome _ =>
    have hadvance := hP.advance hs now
    cases outcome with
    | failed reason => exact hadvance
    | _ => exact hP.ticked hadvance now
  | _ => exact hs

/-- What holds of a new clock and is kept holds of the clock of every reachable session. -/
theorem Reachable.keeps_clock [Renderer G β] [Journal G] {P : ShaderPreview.Clock ρ → Prop}
    (hP : Clock.Keeps P) (hnew : P .initial) (hs : Reachable G s) : P s.clock := by
  obtain ⟨options, s₀, ops, h, hs₀, rfl⟩ := hs
  have hclock : s₀.clock = .initial := by
    simp only [create?, Option.bind_eq_bind, Option.bind_eq_some_iff, Option.pure_def,
      Option.some.injEq] at hs₀
    obtain ⟨telemetry, -, rfl⟩ := hs₀
    rfl
  refine (run_induction (P := fun s _ => Coherent s ∧ P s.clock) ops ?_
    ⟨coherent_of_create? hs₀, hclock ▸ hnew⟩).2
  rintro op - s h ⟨hs, hc⟩
  exact ⟨coherent_operate h op hs, (stepsTo_operate h op hs).keeps_clock hP hc⟩

end Clock

/-! ## The clock events of a run -/

section Events

variable [Seconds ρ] [Renderer G β] [Journal G]

/-- What an operation does with the clock: a tick that somebody waits for shows its times. -/
def clockEvent? (s : Session ρ β) (h : Host G) : Operation ρ β G → Option (ClockEvent ρ)
  | .tick now _ =>
    if s.phase.isTicking ∧ s.pendingTick.isSome then
      let (elapsed, delta, _) := (beginTick s now h).1
      some (.ticked ⟨now, elapsed, delta, if s.clock.paused then some s.clock.frozen else none⟩)
    else none
  | .setPaused .. => some .pauseSet
  | _ => none

/-- What a run does with the clock, in its order. -/
def clockEvents (s : Session ρ β) (h : Host G) : List (Operation ρ β G) → List (ClockEvent ρ)
  | [] => []
  | op :: ops =>
    (s.clockEvent? h op).toList ++ clockEvents (operate s op h).1 (operate s op h).2 ops

/-- The times of the ticks of a run, in its order. -/
def tickTimes (s : Session ρ β) (h : Host G) (ops : List (Operation ρ β G)) :
    List (TickTime ρ) :=
  (s.clockEvents h ops).filterMap ClockEvent.tickTime?

variable {s : Session ρ β} {h : Host G}

theorem clockEvent?_of_not_ticking {now : Nat} {today : Date}
    (ht : ¬ (s.phase.isTicking ∧ s.pendingTick.isSome)) :
    s.clockEvent? h (.tick now today) = none := by
  rw [clockEvent?, if_neg ht]

theorem clockEvent?_of_ticking {now : Nat} {today : Date} (hs : Coherent s)
    (ht : s.phase.isTicking ∧ s.pendingTick.isSome) :
    s.clockEvent? h (.tick now today) = some (.ticked (s.clock.tickTime now)) := by
  have hl := isLive_of_isTicking ht.1
  obtain ⟨r, hb⟩ := beginTick_fst (s := s) h now hl (hs.isSome_renderer hl)
  rw [clockEvent?, if_pos ht, hb]
  rfl

theorem tickTimes_cons_of_ticked {op : Operation ρ β G} {ops : List (Operation ρ β G)}
    {a : TickTime ρ} (ha : s.clockEvent? h op = some (.ticked a)) :
    s.tickTimes h (op :: ops) = a :: (operate s op h).1.tickTimes (operate s op h).2 ops := by
  rw [tickTimes, clockEvents, ha]
  rfl

theorem tickTimes_cons_of_not_ticked {op : Operation ρ β G} {ops : List (Operation ρ β G)}
    (ha : ∀ a, s.clockEvent? h op ≠ some (.ticked a)) :
    s.tickTimes h (op :: ops) = (operate s op h).1.tickTimes (operate s op h).2 ops := by
  rw [tickTimes, clockEvents]
  rcases he : s.clockEvent? h op with _ | ⟨a⟩ | _
  · rfl
  · exact absurd he (ha a)
  · rfl

end Events

/-! ## Timely runs -/

section Timely

variable [Renderer G β] [Journal G]

/-- The session is coherent and its clock counts from an instant in the past. -/
structure Steady (s : Session ℚ β) (now : Nat) : Prop where
  coherent : Coherent s
  nonNegative : s.clock.NonNegative
  start_le : ∀ start ∈ s.clock.start, start ≤ now

theorem Reachable.nonNegative {s : Session ℚ β} (hs : Reachable G s) : s.clock.NonNegative :=
  hs.keeps_clock Clock.keeps_nonNegative Clock.nonNegative_initial

/-! ## What one operation does to the reading -/

/-- The time shown at a later instant is not smaller, by no more than went by. -/
structure Within (now : Nat) (time : ℚ) (later : Nat) (elapsed : ℚ) : Prop where
  le : now ≤ later
  mono : time ≤ elapsed
  gain : elapsed - time ≤ Clock.between now later

theorem Within.trans {a b c : Nat} {x y z : ℚ} (hab : Within a x b y) (hbc : Within b y c z) :
    Within a x c z where
  le := hab.le.trans hbc.le
  mono := hab.mono.trans hbc.mono
  gain := by
    have hgain := Clock.between_add hab.le hbc.le
    linarith [hab.gain, hbc.gain]

variable {s : Session ℚ β} {h : Host G} {earlier now : Nat} {op : Operation ℚ β G}

variable {ops : List (Operation ℚ β G)}

end Timely

end Session

end ShaderPreview
