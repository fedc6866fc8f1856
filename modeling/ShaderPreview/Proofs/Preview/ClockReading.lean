import ShaderPreview.Proofs.Preview.ShaderTime
import ShaderPreview.Proofs.Preview.UniformWrites

/-!
# Reading the clock

The shader time can be read without a tick.  The reading is worked out apart from the ticks, from
the same parts of the clock: it leaves a resumption unapplied and a clock without a start as it is.
In exact seconds it is still the time that a tick at the same instant shows
(`elapsed_eq_tick`), whichever instants came before.  What a tick shows it also writes: its times stand
in their slots of the uniform block (`slots_of_ticked`).
-/

namespace ShaderPreview

namespace Clock

variable {c : Clock ℚ} {now : Nat}

/-- The ways in which the clock comes to a reading. -/
inductive Reads (c : Clock ℚ) (now : Nat) : ℚ → Prop where
  | paused (hp : c.paused) : Reads c now c.frozen
  /-- No tick has applied the resumption yet. -/
  | resumed {time : ℚ} (hp : c.paused = false) (hr : c.resumeFrom = some time) : Reads c now time
  /-- There was no tick yet. -/
  | unstarted (hp : c.paused = false) (hr : c.resumeFrom = none) (hs : c.start = none) :
    Reads c now 0
  | running {start : Nat} (hp : c.paused = false) (hr : c.resumeFrom = none)
    (hs : c.start = some start) : Reads c now (c.offset + between start now)

end Clock

namespace Session

/-! ## The times that a tick writes -/

section Writes

variable {ρ β G : Type} [Seconds ρ] [Renderer G β] [Journal G] {s : Session ρ (Logged β)}

/-- The calls of a tick that somebody waits for; the block among them shows the times of the tick. -/
theorem exists_calls_tick (hs : Reachable (Logbook G β) s)
    (ht : s.phase.isTicking ∧ s.pendingTick.isSome) (now : Nat) (today : Date)
    (h : Host (Logbook G β)) :
    ∃ (r : Logged β) (c : TickCalls β) (used : Shader.UniformSet),
      s.renderer = some r ∧ s.used = some used ∧
      (tick s now today h).2.graphics.entries =
        h.graphics.entries ++ c.calls.map (.called r.number) ∧
      c.block = .showing used (.ofSize s.nextSize.1 s.nextSize.2)
        (s.frameInputs (s.clock.advance now).1 (s.clock.advance now).2.1 today) := by
  obtain ⟨r, c, used, h', hr, hu, -, hblock, -, -, hdrawing, hq⟩ :=
    entered_runTick h now today hs.coherent.toLoaded ht.1
  have hentries := entries_afterDraw
    (s := s.drawing now today used (c.poll.map Prod.fst) ⟨r.number, c.drawn⟩) h' now c.outcome
    (ne_disposed_of_isTicking ht.1) rfl rfl
  refine ⟨r, c, used, hr, hu, ?_, hblock.trans
    (frameBlock_eq_showing hs.sizeShown hs.clear hu now today)⟩
  rw [tick_eq_runTick s now today ht.1 ht.2, hq, hentries, hdrawing.entries, TickCalls.calls,
    List.map_append, List.append_assoc]
  split <;> rfl

/-- The times of a tick stand in the block that the tick writes, each in its slot, where the shader
reads them; a slot that it does not read is zero. -/
theorem slots_of_ticked {a : TickTime ρ} {now : Nat} {today : Date} {h : Host (Logbook G β)}
    (hs : Reachable (Logbook G β) s) (ha : s.clockEvent? h (.tick now today) = some (.ticked a)) :
    ∃ (r : Logged β) (c : TickCalls β) (used : Shader.UniformSet),
      s.renderer = some r ∧ s.used = some used ∧
      (tick s now today h).2.graphics.entries =
        h.graphics.entries ++ c.calls.map (.called r.number) ∧
      c.block.time = (if used.contains .time then Seconds.toSingle a.elapsed else 0) ∧
      c.block.timeDelta = (if used.contains .timeDelta then Seconds.toSingle a.delta else 0) := by
  by_cases ht : s.phase.isTicking ∧ s.pendingTick.isSome
  · rw [clockEvent?_of_ticking hs.coherent ht] at ha
    cases ha
    obtain ⟨r, c, used, hr, hu, hentries, hblock⟩ := exists_calls_tick hs ht now today h
    exact ⟨r, c, used, hr, hu, hentries, by rw [hblock]; rfl, by rw [hblock]; rfl⟩
  · rw [clockEvent?_of_not_ticking ht] at ha
    cases ha

end Writes

/-! ## Reading and ticking -/

variable {β G : Type} [Renderer G β] [Journal G] {s : Session ℚ (Logged β)}

/-- A shader that reads the time is handed, in its slot, what the clock reads at the instant of the
tick. -/
theorem time_of_tick_eq_elapsed (hs : Reachable (Logbook G β) s)
    (ht : s.phase.isTicking ∧ s.pendingTick.isSome) (now : Nat) (today : Date)
    (h : Host (Logbook G β)) :
    ∃ (r : Logged β) (c : TickCalls β) (used : Shader.UniformSet),
      s.renderer = some r ∧ s.used = some used ∧
      (tick s now today h).2.graphics.entries =
        h.graphics.entries ++ c.calls.map (.called r.number) ∧
      c.block.time =
        if used.contains .time then Seconds.toSingle (s.clock.elapsed now) else 0 := by
  have hticked : s.clockEvent? h (.tick now today) = some (.ticked (s.clock.tickTime now)) :=
    clockEvent?_of_ticking hs.coherent ht
  obtain ⟨r, c, used, hr, hu, hentries, htime, -⟩ := slots_of_ticked hs hticked
  refine ⟨r, c, used, hr, hu, hentries, ?_⟩
  rw [htime, ← s.clock.advance_fst now]
  rfl

end Session

end ShaderPreview
