import Mathlib.Data.List.Induction
import ShaderPreview.Proofs.Gpu.Calls

/-!
# Steps of a timer

A renderer is asked to take another size, to take over uniforms, to poll its timer and to draw, in
any order; a `Visit` holds what one request found and what came of it.  `TimerStep` lists what a
request can do to the timer, to the mappings and to the calls, whatever the device answers: only a
draw that finds the timer idle has its pass measured, and only a poll that finds the mapping complete
ends a measurement.
-/

namespace ShaderPreview

namespace Gpu

/-! ## Requests -/

/-- Something asked of a renderer. -/
inductive Request where
  | configure (width height : Nat)
  | writeUniforms (block : UniformBlock)
  | pollTimer
  | draw (timed : Bool)

/-- A request with what it found and what came of it. -/
structure Visit where
  request : Request
  /-- The renderer that was asked. -/
  renderer : SurfaceRenderer
  /-- The world in which it was. -/
  world : World
  /-- What the timer answered, if it was polled. -/
  answer : Option TimerPoll
  /-- The calls that were made. -/
  calls : List Call

namespace SurfaceRenderer

/-- Does what is asked; the answer is that of the timer, if it is polled. -/
def serve (r : SurfaceRenderer) : Request → StateM World (Option TimerPoll × SurfaceRenderer)
  | .configure width height => do return (none, ← Renderer.configure r width height)
  | .writeUniforms block => do return (none, ← Renderer.writeUniforms r block)
  | .pollTimer => do
    let (poll, r) ← Renderer.pollTimer r
    return (some poll, r)
  | .draw timed => do
    let (_, r) ← Renderer.draw r timed
    return (none, r)

/-- Does one thing after the other. -/
def serveAll (r : SurfaceRenderer) (w : World) : List Request → SurfaceRenderer × World
  | [] => (r, w)
  | q :: qs => serveAll (r.serve q w).1.2 (r.serve q w).2 qs

def visit (r : SurfaceRenderer) (w : World) (q : Request) : Visit where
  request := q
  renderer := r
  world := w
  answer := (r.serve q w).1.1
  calls := (r.serve q w).2.calls.drop w.calls.length

/-- The visits of a run of requests, in its order. -/
def visits (r : SurfaceRenderer) (w : World) : List Request → List Visit
  | [] => []
  | q :: qs => r.visit w q :: visits (r.serve q w).1.2 (r.serve q w).2 qs

variable (r : SurfaceRenderer) (w : World)

theorem serveAll_append (qs qs' : List Request) :
    r.serveAll w (qs ++ qs') = (r.serveAll w qs).1.serveAll (r.serveAll w qs).2 qs' := by
  induction qs generalizing r w with
  | nil => rfl
  | cons q qs ih => exact ih _ _

theorem visits_append (qs qs' : List Request) :
    r.visits w (qs ++ qs') =
      r.visits w qs ++ (r.serveAll w qs).1.visits (r.serveAll w qs).2 qs' := by
  induction qs generalizing r w with
  | nil => rfl
  | cons q qs ih => exact congrArg (_ :: ·) (ih _ _)

theorem map_request_visits (qs : List Request) : (r.visits w qs).map Visit.request = qs := by
  induction qs generalizing r w with
  | nil => rfl
  | cons q qs ih => exact congrArg (_ :: ·) (ih _ _)

variable {r w}

/-- A visit finds what the requests before it left. -/
theorem of_visits_eq {qs : List Request} {before after : List Visit} {v : Visit}
    (hv : r.visits w qs = before ++ v :: after) :
    ∃ qs', r.visits w qs' = before ∧
      v = (r.serveAll w qs').1.visit (r.serveAll w qs').2 v.request := by
  have hqs : qs = before.map Visit.request ++ v.request :: after.map Visit.request := by
    rw [← r.map_request_visits w qs, hv, List.map_append, List.map_cons]
  rw [hqs, visits_append] at hv
  have hlength : (r.visits w (before.map Visit.request)).length = before.length := by
    simpa using congrArg List.length (r.map_request_visits w (before.map Visit.request))
  obtain ⟨hbefore, hrest⟩ := List.append_inj hv hlength
  exact ⟨_, hbefore, (List.cons.inj hrest).1.symm⟩

end SurfaceRenderer

/-! ## What one request does -/

/-- The mapping lets the buffer be read. -/
def MapOutcome.mapsBuffer : MapOutcome → Bool
  | times .. | unchanged => true
  | failed | dropped => false

/-- The calls of a draw whose pass is measured. -/
def SurfaceRenderer.measuredCalls (r : SurfaceRenderer) (t : Timer) : List Call :=
  .acquire .ok :: (r.passCalls (some t) ++ [.mapBuffer t.readback])

/-- What a request can do where the timer and the mappings are as given: the answer, the calls, and
the state of the timer and the mappings behind it. -/
inductive TimerStep (t : Timer) (ms : List Mapping) :
    Request → Option TimerPoll → List Call → TimerState → List Mapping → Prop where
  | untimed {q : Request} {cs : List Call} (hcs : ∀ c ∈ cs, c.isTiming = false) :
      TimerStep t ms q none cs t.state ms
  | idle (ht : t.state = .idle) : TimerStep t ms .pollTimer (some .idle) [] .idle ms
  | pending {n : Nat} {ms' : List Mapping} (ht : t.state = .mapping n)
      (hms : ms' = ms.map (·.polled false)) (ha : ms'[n]?.bind Mapping.answer? = none) :
      TimerStep t ms .pollTimer (some .pending) [.pollDevice false] (.mapping n) ms'
  | lost {n : Nat} {ms' : List Mapping} {o : MapOutcome} (ht : t.state = .mapping n)
      (hms : ms' = ms.map (·.polled false)) (ha : ms'[n]?.bind Mapping.answer? = some o)
      (ho : o.mapsBuffer = false) :
      TimerStep t ms .pollTimer (some .idle) [.pollDevice false] .idle ms'
  | ready {n : Nat} {ms' : List Mapping} {o : MapOutcome} (ht : t.state = .mapping n)
      (hms : ms' = ms.map (·.polled false)) (ha : ms'[n]?.bind Mapping.answer? = some o)
      (ho : o.mapsBuffer) (time : Float) :
      TimerStep t ms .pollTimer (some (.ready time))
        [.pollDevice false, .readMapped t.readback, .unmap t.readback] .idle ms'
  | measured (ht : t.state = .idle) (r : SurfaceRenderer) (m : Mapping) :
      TimerStep t ms (.draw true) none (r.measuredCalls t) (.mapping ms.length) (ms ++ [m])

theorem Timer.step_poll {t : Timer} (ht : t.state ≠ .recorded) (w : World) :
    ∃ poll cs state, (t.poll w).1 = (poll, { t with state := state }) ∧
      (t.poll w).2.calls = w.calls ++ cs ∧
      TimerStep t w.mappings .pollTimer (some poll) cs state (t.poll w).2.mappings := by
  obtain ⟨queries, resolved, readback, period, state⟩ := t
  cases state with
  | idle => exact ⟨.idle, [], .idle, rfl, (List.append_nil _).symm, .idle rfl⟩
  | recorded => exact absurd rfl ht
  | mapping n =>
    -- the world behind the poll of the device
    have hmappings : (pollDevice false w).2.mappings = w.mappings.map (·.polled false) := rfl
    have hcalls : (pollDevice false w).2.calls = w.calls ++ [.pollDevice false] := rfl
    unfold poll
    simp only [bind_apply]
    generalize (pollDevice false w).2 = w₁ at hmappings hcalls ⊢
    have hget : (get : StateM World World) w₁ = (w₁, w₁) := rfl
    rw [hget]
    dsimp only
    rcases ha : w₁.mapAnswer? n with _ | o
    · exact ⟨.pending, _, .mapping n, rfl, hcalls, .pending rfl hmappings ha⟩
    · have hread : w₁.calls ++ [Call.readMapped readback] ++ [Call.unmap readback] =
          w.calls ++ [Call.pollDevice false, .readMapped readback, .unmap readback] := by
        rw [hcalls]
        simp
      cases o with
      | times first last =>
        exact ⟨.ready _, _, .idle, rfl, hread, .ready rfl hmappings ha rfl _⟩
      | unchanged => exact ⟨.ready _, _, .idle, rfl, hread, .ready rfl hmappings ha rfl _⟩
      | failed => exact ⟨.idle, _, .idle, rfl, hcalls, .lost rfl hmappings ha rfl⟩
      | dropped => exact ⟨.idle, _, .idle, rfl, hcalls, .lost rfl hmappings ha rfl⟩

namespace SurfaceRenderer

theorem called_mapBuffer (b : Buffer) (w : World) : ∃ m, mapBuffer b w =
    (w.mappings.length, { (mapBuffer b w).2 with
      calls := w.calls ++ [.mapBuffer b], mappings := w.mappings ++ [m] }) := by
  refine ⟨_, Prod.ext ?_ rfl⟩
  show (w.mappings ++ [_]).length - 1 = _
  rw [List.length_append, List.length_singleton, Nat.add_sub_cancel]

theorem drawFrame_of_measuring {r : SurfaceRenderer} {timed : Bool} {t : Timer}
    (hm : r.measuring? timed = some t) (w : World) :
    r.drawFrame timed w =
      let w' := (r.drawPass (some t) w).2
      ({ r with timer := some { t with state := .mapping (mapBuffer t.readback w').1 } },
        (mapBuffer t.readback w').2) := by
  unfold drawFrame
  rw [hm]
  rfl

/-- Behind a pass that is not measured nothing is asked for, unless it was left to be. -/
theorem drawFrame_of_not_measuring {r : SurfaceRenderer} {timed : Bool}
    (hm : r.measuring? timed = none) (ht : ∀ t ∈ r.timer, t.state ≠ .recorded) (w : World) :
    r.drawFrame timed w = (r, (r.drawPass none w).2) := by
  unfold drawFrame
  rw [hm]
  obtain ⟨context, pipeline, _ | t⟩ := r
  · rfl
  · simp only [Option.map_none, Option.none_or, bind_apply, Timer.afterSubmit, if_pos (ht t rfl)]
    rfl

/-- A draw measures its pass if it is asked to, gets a frame and finds the timer idle. -/
theorem draw_step {r : SurfaceRenderer} (ht : ∀ t ∈ r.timer, t.state ≠ .recorded) (timed : Bool)
    (w : World) : (UntimedTo w (r.draw timed w).2 ∧ (r.draw timed w).1.2 = r) ∨
      ∃ t m, r.measuring? timed = some t ∧
        (r.draw timed w).2.calls = w.calls ++ r.measuredCalls t ∧
        (r.draw timed w).2.mappings = w.mappings ++ [m] ∧
        (r.draw timed w).1.2.timer = some { t with state := .mapping w.mappings.length } := by
  have hskip : Untimed (do note .surfaceOutdated; r.context.reconfigure) :=
    (Untimed.note _).bind fun _ => .call rfl
  have hacquire := called_acquire w
  unfold draw
  simp only [bind_apply]
  rcases ha : acquire w with ⟨o, w₁⟩
  rw [ha] at hacquire
  have hframe : UntimedTo w w₁ := ⟨_, by simp [Call.isTiming], hacquire⟩
  cases o with
  | ok =>
    dsimp only
    rcases hm : r.measuring? timed with _ | t
    · rw [bind_apply, drawFrame_of_not_measuring hm ht]
      exact Or.inl ⟨hframe.trans (r.untimed_drawPass w₁), rfl⟩
    · right
      have hpass := hacquire.trans (r.makes_drawPass (some t) w₁)
      rw [bind_apply, drawFrame_of_measuring hm]
      dsimp only
      generalize (r.drawPass (some t) w₁).2 = w₂ at hpass ⊢
      obtain ⟨m, hmap⟩ := called_mapBuffer t.readback w₂
      rw [hmap]
      refine ⟨t, m, rfl, ?_, ?_, ?_⟩
      · show w₂.calls ++ [.mapBuffer t.readback] = _
        rw [hpass.calls, measuredCalls, List.append_assoc]
        rfl
      · show w₂.mappings ++ [m] = _
        rw [hpass.mappings]
      · show some { t with state := .mapping w₂.mappings.length } = _
        rw [hpass.mappings]
  | lost | outdated => exact Or.inl ⟨hframe.trans (hskip w₁), rfl⟩
  | timeout => exact Or.inl ⟨hframe.trans (Untimed.note .acquireTimedOut w₁), rfl⟩
  | memory | other => exact Or.inl ⟨hframe, rfl⟩

/-- Every request is a step of the timer, and leaves it with the objects that it has. -/
theorem timerStep_serve {r : SurfaceRenderer} {t : Timer} (hr : r.timer = some t)
    (ht : t.state ≠ .recorded) (w : World) (q : Request) :
    ∃ cs state, (r.serve q w).2.calls = w.calls ++ cs ∧
      (r.serve q w).1.2.timer = some { t with state := state } ∧
      TimerStep t w.mappings q (r.serve q w).1.1 cs state (r.serve q w).2.mappings := by
  cases q with
  | configure width height =>
    obtain ⟨cs, hcs, hcalled⟩ := r.untimed_configure width height w
    refine ⟨cs, t.state, hcalled.calls, hr, ?_⟩
    rw [show (r.serve (.configure width height) w).2.mappings = _ from hcalled.mappings]
    exact .untimed hcs
  | writeUniforms block =>
    obtain ⟨cs, hcs, hcalled⟩ := r.untimed_writeUniforms block w
    refine ⟨cs, t.state, hcalled.calls, hr, ?_⟩
    rw [show (r.serve (.writeUniforms block) w).2.mappings = _ from hcalled.mappings]
    exact .untimed hcs
  | pollTimer =>
    obtain ⟨poll, cs, state, hpoll, hcalls, hstep⟩ := t.step_poll ht w
    have hserve : r.serve .pollTimer w =
        ((some (t.poll w).1.1, { r with timer := some (t.poll w).1.2 }), (t.poll w).2) := by
      show (r.pollTimer >>= _) w = _
      unfold SurfaceRenderer.pollTimer
      rw [hr]
      rfl
    rw [hserve, hpoll]
    exact ⟨cs, state, hcalls, rfl, hstep⟩
  | draw timed =>
    have hrecorded : ∀ t' ∈ r.timer, t'.state ≠ .recorded := by
      rw [hr]
      rintro _ ⟨⟩
      exact ht
    rcases draw_step hrecorded timed w with
      ⟨⟨cs, hcs, hcalled⟩, hdraw⟩ | ⟨t', m, hm, hcalls, hmappings, hdraw⟩
    · refine ⟨cs, t.state, hcalled.calls, (congrArg timer hdraw).trans hr, ?_⟩
      rw [show (r.serve (.draw timed) w).2.mappings = _ from hcalled.mappings]
      exact .untimed hcs
    · rw [measuring?, hr, Option.filter_eq_some_iff] at hm
      obtain ⟨hsome, hidle⟩ := hm
      cases hsome
      rw [Bool.and_eq_true, Timer.isIdle, decide_eq_true_eq] at hidle
      obtain ⟨rfl, hidle⟩ := hidle
      refine ⟨_, _, hcalls, hdraw, ?_⟩
      rw [show (r.serve (.draw true) w).2.mappings = _ from hmappings]
      exact .measured hidle r m

theorem timerStep_visit {r : SurfaceRenderer} {t : Timer} (hr : r.timer = some t)
    (ht : t.state ≠ .recorded) (w : World) (q : Request) :
    ∃ state, (r.serve q w).2.calls = w.calls ++ (r.visit w q).calls ∧
      (r.serve q w).1.2.timer = some { t with state := state } ∧
      TimerStep t w.mappings q (r.visit w q).answer (r.visit w q).calls state
        (r.serve q w).2.mappings := by
  obtain ⟨cs, state, hcalls, htimer, hstep⟩ := timerStep_serve hr ht w q
  have hvisit : (r.visit w q).calls = cs := by
    show (r.serve q w).2.calls.drop w.calls.length = cs
    rw [hcalls, List.drop_left]
  rw [hvisit]
  exact ⟨state, hcalls, htimer, hstep⟩

/-- Without a timer no request makes a call that has to do with times, and none brings a timer. -/
theorem untimed_serve {r : SurfaceRenderer} (hr : r.timer = none) (q : Request) (w : World) :
    UntimedTo w (r.serve q w).2 ∧ (r.serve q w).1.2.timer = none := by
  cases q with
  | configure width height => exact ⟨r.untimed_configure width height w, hr⟩
  | writeUniforms block => exact ⟨r.untimed_writeUniforms block w, hr⟩
  | pollTimer =>
    have hserve : r.serve .pollTimer w = ((some .idle, r), w) := by
      show (r.pollTimer >>= _) w = _
      unfold SurfaceRenderer.pollTimer
      rw [hr]
      rfl
    rw [hserve]
    exact ⟨.refl w, hr⟩
  | draw timed =>
    rcases draw_step (r := r) (by simp [hr]) timed w with ⟨huntimed, hdraw⟩ | ⟨t, m, hm, -⟩
    · exact ⟨huntimed, (congrArg timer hdraw).trans hr⟩
    · rw [measuring?, hr] at hm
      cases hm

theorem untimed_serveAll {r : SurfaceRenderer} (hr : r.timer = none) (w : World)
    (qs : List Request) :
    UntimedTo w (r.serveAll w qs).2 ∧ (r.serveAll w qs).1.timer = none := by
  induction qs generalizing r w with
  | nil => exact ⟨.refl w, hr⟩
  | cons q qs ih =>
    obtain ⟨huntimed, htimer⟩ := untimed_serve hr q w
    obtain ⟨huntimed', htimer'⟩ := ih htimer (r.serve q w).2
    exact ⟨huntimed.trans huntimed', htimer'⟩

end SurfaceRenderer

end Gpu

end ShaderPreview
