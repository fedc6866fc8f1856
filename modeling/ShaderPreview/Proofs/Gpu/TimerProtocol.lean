import Mathlib.Data.List.Induction
import ShaderPreview.Proofs.Gpu.Connection
import ShaderPreview.Proofs.Gpu.TimerStep
import ShaderPreview.Proofs.Preview.Lifecycle

/-!
# The timer protocol

`Standing` says where a run of requests leaves the measurements of a renderer: between requests its
timer is idle, and the outcome of every mapping was taken, or one mapping is on its way, asked for by
the last draw that was measured.  Every `TimerStep` keeps it.  What the calls of a run keep to is read
off it in `TimerProtocol`.
-/

namespace ShaderPreview

namespace Gpu

/-! ## Counting calls -/

namespace Call

/-- The call has a pass write its times or brings them to where they are read from. -/
def isMeasuring : Call → Bool
  | beginPass _ _ times => times.isSome
  | resolveQueries .. | copyBuffer .. => true
  | _ => false

def isDevicePoll : Call → Bool
  | pollDevice _ => true
  | _ => false

def isMapping : Call → Bool
  | mapBuffer _ => true
  | _ => false

def isUnmapping : Call → Bool
  | unmap _ => true
  | _ => false

/-- The buffer that the call copies into, maps, reads or unmaps. -/
def readback? : Call → Option Buffer
  | copyBuffer _ _ b _ _ | mapBuffer b | readMapped b | unmap b => some b
  | _ => none

theorem of_untimed {c : Call} (hc : c.isTiming = false) :
    c.isMeasuring = false ∧ c.isMapping = false ∧ c.isUnmapping = false ∧ c.readback? = none := by
  cases c <;> simp_all [isTiming, isMeasuring, isMapping, isUnmapping, readback?]

end Call

/-- A buffer that was read is unmapped before anything else is done. -/
def UnmapsReads (cs : List Call) : Prop :=
  ∀ before after b, cs = before ++ .readMapped b :: after → ∃ rest, after = .unmap b :: rest

namespace UnmapsReads

variable {cs ds : List Call}

theorem of_forall_ne (h : ∀ c ∈ cs, ∀ b, c ≠ .readMapped b) : UnmapsReads cs := by
  rintro before after b rfl
  exact absurd rfl (h (.readMapped b) (by simp) b)

theorem append (hc : UnmapsReads cs) (hd : UnmapsReads ds) : UnmapsReads (cs ++ ds) := by
  intro before after b h
  rcases append_eq_append_cons_cases h with ⟨l, rfl, rfl⟩ | ⟨l, -, rfl⟩
  · obtain ⟨rest, rfl⟩ := hc before l b rfl
    exact ⟨rest ++ ds, rfl⟩
  · exact hd l after b rfl

theorem flatMap {α : Type} {f : α → List Call} {as : List α} (h : ∀ a ∈ as, UnmapsReads (f a)) :
    UnmapsReads (as.flatMap f) := by
  induction as with
  | nil => exact of_forall_ne (List.forall_mem_nil _)
  | cons a as ih =>
    obtain ⟨ha, has⟩ := List.forall_mem_cons.1 h
    rw [List.flatMap_cons]
    exact ha.append (ih has)

theorem poll (b : Buffer) : UnmapsReads [.pollDevice false, .readMapped b, .unmap b] := by
  intro before after b' h
  rcases before with _ | ⟨_, _ | ⟨_, _ | ⟨_, before⟩⟩⟩ <;> simp at h
  obtain ⟨-, rfl, rfl⟩ := h
  exact ⟨[], rfl⟩

end UnmapsReads

namespace Visit

/-- A measurement begins. -/
def measures (v : Visit) : Bool := v.calls.any Call.isMeasuring

/-- The timer took the outcome of a mapping: it polled the device and waits no longer. -/
def consumes (v : Visit) : Bool :=
  match v.answer with
  | none | some .pending => false
  | some _ => v.calls.any Call.isDevicePoll

/-- A measurement ends with its time. -/
def isReady (v : Visit) : Bool :=
  match v.answer with
  | some (.ready _) => true
  | _ => false

/-- The visit has no part in a measurement. -/
structure Quiet (v : Visit) : Prop where
  measures : v.measures = false
  consumes : v.consumes = false
  isReady : v.isReady = false
  maps : v.calls.countP Call.isMapping = 0
  unmaps : v.calls.countP Call.isUnmapping = 0

theorem quiet_of_untimed {v : Visit} (ha : v.answer = none)
    (hcs : ∀ c ∈ v.calls, c.isTiming = false) : v.Quiet where
  measures := List.any_eq_false.2 fun c hc => by simp [(Call.of_untimed (hcs c hc)).1]
  consumes := by rw [consumes, ha]
  isReady := by rw [isReady, ha]
  maps := List.countP_eq_zero.2 fun c hc => by simp [(Call.of_untimed (hcs c hc)).2.1]
  unmaps := List.countP_eq_zero.2 fun c hc => by simp [(Call.of_untimed (hcs c hc)).2.2.1]

end Visit

/-- The mappings that were asked for. -/
def maps (vs : List Visit) : Nat := (vs.flatMap Visit.calls).countP Call.isMapping

/-- The mappings that were undone. -/
def unmaps (vs : List Visit) : Nat := (vs.flatMap Visit.calls).countP Call.isUnmapping

/-- The mappings whose outcome was taken. -/
def consumed (vs : List Visit) : Nat := vs.countP Visit.consumes

section Counting

variable (vs : List Visit) (v : Visit)

theorem maps_append : maps (vs ++ [v]) = maps vs + v.calls.countP Call.isMapping := by
  simp [maps]

theorem unmaps_append : unmaps (vs ++ [v]) = unmaps vs + v.calls.countP Call.isUnmapping := by
  simp [unmaps]

theorem consumed_append : consumed (vs ++ [v]) = consumed vs + v.consumes.toNat := by
  cases h : v.consumes <;> simp [consumed, h]

end Counting

/-! ## Where a run leaves the measurements -/

variable {known : Nat} {vs : List Visit} {v : Visit} {ms : List Mapping} {s : TimerState}

/-- Of the mappings behind the known ones, all are complete, and no buffer is mapped. -/
structure Settled (known : Nat) (vs : List Visit) (ms : List Mapping) : Prop where
  known_le : known ≤ ms.length
  complete : ∀ m ∈ ms.drop known, m.remaining = none
  undone : (ms.drop known).countP (·.outcome.mapsBuffer) = unmaps vs

/-- A measurement began that did not end with a time. -/
def Begun (vs : List Visit) : Prop :=
  ∃ earlier d mid, vs = earlier ++ d :: mid ∧ d.measures ∧
    ∀ v ∈ mid, v.measures = false ∧ v.isReady = false

/-- Where a run leaves the timer and the mappings. -/
inductive Standing (known : Nat) (vs : List Visit) : TimerState → List Mapping → Prop where
  | idle {ms : List Mapping} (hs : Settled known vs ms) (hmaps : maps vs = consumed vs) :
      Standing known vs .idle ms
  | mapping {ms : List Mapping} (m : Mapping) (hs : Settled known vs ms)
      (hmaps : maps vs = consumed vs + 1) (hbegun : Begun vs) :
      Standing known vs (.mapping ms.length) (ms ++ [m])

namespace Settled

/-- A poll of the device changes no mapping that is complete. -/
theorem polled (h : Settled known vs ms) : Settled known vs (ms.map (·.polled false)) := by
  have hdrop : (ms.map (·.polled false)).drop known = ms.drop known := by
    rw [← List.map_drop]
    refine (List.map_congr_left fun m hm => ?_).trans (List.map_id _)
    rw [Mapping.polled, h.complete m hm]
    rfl
  refine ⟨by simpa using h.known_le, ?_, ?_⟩
  · rw [hdrop]
    exact h.complete
  · rw [hdrop]
    exact h.undone

theorem append (h : Settled known vs ms) (hv : v.calls.countP Call.isUnmapping = 0) :
    Settled known (vs ++ [v]) ms :=
  ⟨h.known_le, h.complete, by rw [unmaps_append, hv]; exact h.undone⟩

/-- A mapping is complete, and its buffer is unmapped if it was mapped. -/
theorem finish {m : Mapping} {o : MapOutcome} (h : Settled known vs ms) (hm : m.answer? = some o)
    (hv : v.calls.countP Call.isUnmapping = o.mapsBuffer.toNat) :
    Settled known (vs ++ [v]) (ms ++ [m]) := by
  obtain ⟨hremaining, rfl⟩ : m.remaining = none ∧ m.outcome = o := by
    simpa [Mapping.answer?] using hm
  have hdrop : (ms ++ [m]).drop known = ms.drop known ++ [m] :=
    List.drop_append_of_le_length h.known_le
  refine ⟨?_, ?_, ?_⟩
  · rw [List.length_append]
    exact Nat.le_add_right_of_le h.known_le
  · rw [hdrop]
    exact List.forall_mem_append.2 ⟨h.complete, by simpa using hremaining⟩
  · rw [hdrop, List.countP_append, h.undone, unmaps_append, hv]
    cases ho : m.outcome.mapsBuffer <;> simp [ho]

end Settled

theorem Begun.append (h : Begun vs) (hm : v.measures = false) (hr : v.isReady = false) :
    Begun (vs ++ [v]) := by
  obtain ⟨earlier, d, mid, rfl, hd, hmid⟩ := h
  refine ⟨earlier, d, mid ++ [v], by simp, hd, ?_⟩
  exact List.forall_mem_append.2 ⟨hmid, by simpa using ⟨hm, hr⟩⟩

namespace Standing

theorem polled (h : Standing known vs s ms) : Standing known vs s (ms.map (·.polled false)) := by
  cases h with
  | idle hs hmaps => exact .idle hs.polled hmaps
  | mapping m hs hmaps hbegun =>
    rw [List.map_append]
    simpa using Standing.mapping (m.polled false) hs.polled hmaps hbegun

theorem quiet (h : Standing known vs s ms) (hv : v.Quiet) : Standing known (vs ++ [v]) s ms := by
  have hmaps' : maps (vs ++ [v]) = maps vs := by rw [maps_append, hv.maps, Nat.add_zero]
  have hconsumed' : consumed (vs ++ [v]) = consumed vs := by
    rw [consumed_append, hv.consumes, Bool.toNat_false, Nat.add_zero]
  cases h with
  | idle hs hmaps => exact .idle (hs.append hv.unmaps) (by rw [hmaps', hconsumed', hmaps])
  | mapping m hs hmaps hbegun =>
    exact .mapping m (hs.append hv.unmaps) (by rw [hmaps', hconsumed', hmaps])
      (hbegun.append hv.measures hv.isReady)

theorem finish {n : Nat} {o : MapOutcome} (h : Standing known vs (.mapping n) ms)
    (ha : ms[n]?.bind Mapping.answer? = some o) (hmaps' : v.calls.countP Call.isMapping = 0)
    (hv : v.calls.countP Call.isUnmapping = o.mapsBuffer.toNat) (hconsumes : v.consumes) :
    Standing known (vs ++ [v]) .idle ms := by
  cases h with
  | mapping m hs hmaps hbegun =>
    refine .idle (hs.finish (by simpa using ha) hv) ?_
    rw [maps_append, hmaps', consumed_append, hconsumes, hmaps, Bool.toNat_true, Nat.add_zero]

theorem begin (h : Standing known vs .idle ms) (m : Mapping) (hmeasures : v.measures)
    (hmaps' : v.calls.countP Call.isMapping = 1) (hv : v.calls.countP Call.isUnmapping = 0)
    (hconsumes : v.consumes = false) :
    Standing known (vs ++ [v]) (.mapping ms.length) (ms ++ [m]) := by
  cases h with
  | idle hs hmaps =>
    have hcount : maps (vs ++ [v]) = consumed (vs ++ [v]) + 1 := by
      rw [maps_append, hmaps', consumed_append, hconsumes, hmaps]
      rfl
    exact .mapping m (hs.append hv) hcount ⟨vs, v, [], rfl, hmeasures, List.forall_mem_nil _⟩

/-- Every step keeps to it. -/
theorem step {t : Timer} {ms' : List Mapping} {s' : TimerState} (h : Standing known vs t.state ms)
    (hv : TimerStep t ms v.request v.answer v.calls s' ms') : Standing known (vs ++ [v]) s' ms' := by
  obtain ⟨q, r, w, answer, cs⟩ := v
  dsimp only at hv
  cases hv with
  | untimed hcs => exact h.quiet (Visit.quiet_of_untimed rfl hcs)
  | idle ht =>
    rw [ht] at h
    exact h.quiet ⟨rfl, rfl, rfl, rfl, rfl⟩
  | pending ht hms =>
    rw [ht] at h
    rw [hms]
    exact h.polled.quiet ⟨rfl, rfl, rfl, rfl, rfl⟩
  | lost ht hms ha ho =>
    rw [ht] at h
    rw [hms] at ha ⊢
    exact h.polled.finish ha rfl (by rw [ho]; rfl) rfl
  | ready ht hms ha ho time =>
    rw [ht] at h
    rw [hms] at ha ⊢
    exact h.polled.finish ha rfl (by rw [ho]; rfl) rfl
  | measured ht r' m =>
    rw [ht] at h
    exact h.begin m rfl rfl rfl rfl

theorem ne_recorded (h : Standing known vs s ms) : s ≠ .recorded := by
  cases h <;> nofun

end Standing

/-! ## Runs of requests -/

section Runs

variable {r : SurfaceRenderer} {t : Timer} {w : World}

theorem standing_run (hr : r.timer = some t) (ht : t.state = .idle) (qs : List Request) :
    ∃ s, (r.serveAll w qs).1.timer = some { t with state := s } ∧
      (r.serveAll w qs).2.calls = w.calls ++ (r.visits w qs).flatMap Visit.calls ∧
      Standing w.mappings.length (r.visits w qs) s (r.serveAll w qs).2.mappings := by
  induction qs using List.reverseRecOn with
  | nil =>
    refine ⟨.idle, ?_, (List.append_nil _).symm, .idle ⟨Nat.le_refl _, ?_, ?_⟩ rfl⟩
    · rw [← ht]
      exact hr
    · simp [SurfaceRenderer.serveAll]
    · simp [SurfaceRenderer.serveAll, SurfaceRenderer.visits, unmaps]
  | append_singleton qs q ih =>
    obtain ⟨s, htimer, hcalls, hs⟩ := ih
    obtain ⟨s', hcalls', htimer', hstep⟩ := SurfaceRenderer.timerStep_visit htimer hs.ne_recorded
      (r.serveAll w qs).2 q
    rw [SurfaceRenderer.serveAll_append, SurfaceRenderer.visits_append]
    refine ⟨s', htimer', ?_, hs.step hstep⟩
    rw [List.flatMap_append, ← List.append_assoc, ← hcalls]
    simpa [SurfaceRenderer.visits, SurfaceRenderer.serveAll] using hcalls'

/-- A visit of a run is a step from where the visits before it left the measurements. -/
theorem timerStep_of_visits_eq (hr : r.timer = some t) (ht : t.state = .idle) {qs : List Request}
    {before after : List Visit} {v : Visit} (hv : r.visits w qs = before ++ v :: after) :
    ∃ s s' ms', v.renderer.timer = some { t with state := s } ∧
      Standing w.mappings.length before s v.world.mappings ∧
      TimerStep { t with state := s } v.world.mappings v.request v.answer v.calls s' ms' := by
  obtain ⟨qs', rfl, hvisit⟩ := SurfaceRenderer.of_visits_eq hv
  obtain ⟨s, htimer, -, hs⟩ := standing_run (w := w) hr ht qs'
  obtain ⟨s', -, -, hstep⟩ := SurfaceRenderer.timerStep_visit htimer hs.ne_recorded
    (r.serveAll w qs').2 v.request
  rw [hvisit]
  exact ⟨s, s', _, htimer, hs, hstep⟩

end Runs

/-! ## What the calls keep to -/

/-- A measurement begins while nothing is on its way, and the readback is asked for last. -/
structure MeasuresAlone (known : Nat) (before : List Visit) (v : Visit) : Prop where
  request : v.request = .draw true
  idle : ∃ t, v.renderer.timer = some t ∧ t.state = .idle
  consumed : maps before = consumed before
  settled : Settled known before v.world.mappings
  mapsLast : ∃ cs b, v.calls = cs ++ [.mapBuffer b] ∧ ∀ c ∈ cs, c.isMapping = false

/-- What the visits of a run keep to that leaves the timer as given. -/
structure TimerProtocol (known : Nat) (vs : List Visit) (t : Timer) : Prop where
  /-- Every mapping's outcome was taken, but for the one that the timer waits for. -/
  outstanding :
    t.state = .idle ∧ maps vs = consumed vs ∨
      (∃ n, t.state = .mapping n) ∧ maps vs = consumed vs + 1
  alone : ∀ before v after, vs = before ++ v :: after → v.measures → MeasuresAlone known before v
  readback : ∀ c ∈ vs.flatMap Visit.calls, ∀ b ∈ c.readback?, b = t.readback
  unmapped : UnmapsReads (vs.flatMap Visit.calls)
  /-- A time belongs to the last measurement that began, and no other time did. -/
  ready : ∀ before v after, vs = before ++ v :: after → v.isReady →
    v.request = .pollTimer ∧ Begun before

namespace TimerStep

variable {t : Timer} {q : Request} {answer : Option TimerPoll} {cs : List Call} {ms' : List Mapping}

/-- Only the draw of an idle timer measures. -/
theorem of_measures (h : TimerStep t ms q answer cs s ms') (hm : cs.any Call.isMeasuring) :
    q = .draw true ∧ t.state = .idle ∧ ∃ r : SurfaceRenderer, cs = r.measuredCalls t := by
  cases h with
  | untimed hcs =>
    obtain ⟨c, hc, hmeasures⟩ := List.any_eq_true.1 hm
    rw [(Call.of_untimed (hcs c hc)).1] at hmeasures
    cases hmeasures
  | measured ht r m => exact ⟨rfl, ht, r, rfl⟩
  | _ => simp [Call.isMeasuring] at hm

theorem unmapsReads (h : TimerStep t ms q answer cs s ms') : UnmapsReads cs := by
  cases h with
  | untimed hcs =>
    refine .of_forall_ne fun c hc b hb => ?_
    have hnone := (Call.of_untimed (hcs c hc)).2.2.2
    rw [hb] at hnone
    cases hnone
  | idle => exact .of_forall_ne (List.forall_mem_nil _)
  | pending | lost => exact .of_forall_ne (by simp)
  | ready => exact .poll _
  | measured =>
    exact .of_forall_ne
      (by simp [SurfaceRenderer.measuredCalls, SurfaceRenderer.passCalls, Pipeline.drawCalls])

/-- A timer copies into one buffer, which is the only one that it maps. -/
theorem readback_eq (h : TimerStep t ms q answer cs s ms') :
    ∀ c ∈ cs, ∀ b ∈ c.readback?, b = t.readback := by
  cases h with
  | untimed hcs =>
    intro c hc b hb
    rw [(Call.of_untimed (hcs c hc)).2.2.2] at hb
    cases hb
  | idle => exact List.forall_mem_nil _
  | pending | lost | ready => simp [Call.readback?]
  | measured =>
    simp [SurfaceRenderer.measuredCalls, SurfaceRenderer.passCalls, Pipeline.drawCalls,
      Call.readback?]

/-- Only the poll of a timer that waits for a mapping ends with a time. -/
theorem of_ready {time : Float} (h : TimerStep t ms q (some (.ready time)) cs s ms') :
    q = .pollTimer ∧ ∃ n, t.state = .mapping n := by
  cases h with
  | ready ht => exact ⟨rfl, _, ht⟩

end TimerStep

theorem Standing.begun {n : Nat} (h : Standing known vs (.mapping n) ms) : Begun vs := by
  cases h with
  | mapping m hs hmaps hbegun => exact hbegun

theorem Standing.outstanding (h : Standing known vs s ms) :
    s = .idle ∧ maps vs = consumed vs ∨ (∃ n, s = .mapping n) ∧ maps vs = consumed vs + 1 := by
  cases h with
  | idle hs hmaps => exact .inl ⟨rfl, hmaps⟩
  | mapping m hs hmaps hbegun => exact .inr ⟨⟨_, rfl⟩, hmaps⟩

theorem Standing.measuresAlone {t : Timer} {ms' : List Mapping} {s' : TimerState}
    (h : Standing known vs t.state v.world.mappings) (ht : v.renderer.timer = some t)
    (hv : TimerStep t v.world.mappings v.request v.answer v.calls s' ms') (hm : v.measures) :
    MeasuresAlone known vs v := by
  obtain ⟨hrequest, hidle, r, hcalls⟩ := hv.of_measures hm
  rw [hidle] at h
  cases h with
  | idle hs hmaps =>
    refine ⟨hrequest, ⟨t, ht, hidle⟩, hmaps, hs, .acquire .ok :: r.passCalls (some t), t.readback,
      hcalls, ?_⟩
    simp [SurfaceRenderer.passCalls, Pipeline.drawCalls, Call.isMapping]

theorem timerProtocol_of_idle {r : SurfaceRenderer} {t : Timer} (hr : r.timer = some t)
    (ht : t.state = .idle) (w : World) (qs : List Request) :
    ∃ s, (r.serveAll w qs).1.timer = some { t with state := s } ∧
      (r.serveAll w qs).2.calls = w.calls ++ (r.visits w qs).flatMap Visit.calls ∧
      TimerProtocol w.mappings.length (r.visits w qs) { t with state := s } := by
  obtain ⟨s, htimer, hcalls, hs⟩ := standing_run (w := w) hr ht qs
  refine ⟨s, htimer, hcalls, hs.outstanding, ?_, ?_, .flatMap ?_, ?_⟩
  · intro before v after hv hm
    obtain ⟨s₀, s', ms', htimer₀, hbefore, hstep⟩ := timerStep_of_visits_eq hr ht hv
    exact Standing.measuresAlone hbefore htimer₀ hstep hm
  · intro c hc
    obtain ⟨v, hv, hc⟩ := List.mem_flatMap.1 hc
    obtain ⟨before, after, hv⟩ := List.append_of_mem hv
    obtain ⟨s₀, s', ms', -, -, hstep⟩ := timerStep_of_visits_eq hr ht hv
    exact hstep.readback_eq c hc
  · intro v hv
    obtain ⟨before, after, hv⟩ := List.append_of_mem hv
    obtain ⟨s₀, s', ms', -, -, hstep⟩ := timerStep_of_visits_eq hr ht hv
    exact hstep.unmapsReads
  · intro before v after hv hready
    obtain ⟨s₀, s', ms', -, hbefore, hstep⟩ := timerStep_of_visits_eq hr ht hv
    obtain ⟨time, hanswer⟩ : ∃ time, v.answer = some (.ready time) := by
      unfold Visit.isReady at hready
      split at hready
      · exact ⟨_, ‹_›⟩
      · cases hready
    rw [hanswer] at hstep
    obtain ⟨hrequest, n, hn⟩ := hstep.of_ready
    rw [show s₀ = _ from hn] at hbefore
    exact ⟨hrequest, hbefore.begun⟩

/-- **The timer protocol.** Whatever is asked of a connected renderer, and whatever the device
answers, a timer keeps to the protocol; a renderer without one makes no call that has to do with
times, from its connection to its release. -/
theorem timerProtocol_of_connect {check : StageCheck} {handles : WindowHandles}
    {options : GpuOptions} {a : Shader.Assembly} {width height : Nat} {w₀ w : World}
    {r : SurfaceRenderer}
    (hc : SurfaceRenderer.connectWith check handles options a width height w₀ = (.ok r, w))
    (qs : List Request) :
    (∀ t, r.timer = some t →
        ∃ s, (r.serveAll w qs).1.timer = some { t with state := s } ∧
          (r.serveAll w qs).2.calls = w.calls ++ (r.visits w qs).flatMap Visit.calls ∧
          TimerProtocol w.mappings.length (r.visits w qs) { t with state := s }) ∧
      (r.timer = none →
        ∃ cs, (∀ c ∈ cs, c.isTiming = false) ∧
          (Renderer.release (r.serveAll w qs).1 (r.serveAll w qs).2).2.calls = w₀.calls ++ cs) := by
  obtain ⟨huntimed, hidle⟩ := SurfaceRenderer.of_connectWith hc
  constructor
  · intro t hr
    exact timerProtocol_of_idle hr (hidle t hr) w qs
  · intro hr
    obtain ⟨hserve, htimer⟩ := SurfaceRenderer.untimed_serveAll hr w qs
    obtain ⟨cs, hcs, hcalled⟩ := ((huntimed hr).trans hserve).trans
      (SurfaceRenderer.untimed_release htimer (r.serveAll w qs).2)
    exact ⟨cs, hcs, hcalled.calls⟩

/-- A world whose first mapping takes two polls. -/
def slowWorld : World := .ofScript { Script.default with maps := [⟨2, .times 5 105⟩] }

/-- Two measurements, with a draw between them that finds the first one on its way. -/
def twoMeasurements : List Request :=
  [.draw true, .pollTimer, .draw true, .pollTimer, .draw true]

theorem connect_blankAssembly : ∃ r w,
    SurfaceRenderer.connectWith Glsl.check ⟨true, true⟩ .default blankAssembly 320 240 slowWorld =
        (.ok r, w) ∧
      r.timer.isSome ∧
      (r.visits w twoMeasurements).map Visit.measures = [true, false, false, false, true] ∧
      (r.visits w twoMeasurements).map Visit.isReady = [false, false, false, true, false] := by
  unfold SurfaceRenderer.connectWith Pipeline.createWith
  rw [checkStages_blankAssembly]
  exact ⟨_, _, rfl, rfl, rfl, rfl⟩

theorem connect_blankAssembly_untimed : ∃ r w,
    SurfaceRenderer.connectWith Glsl.check ⟨true, true⟩
        { GpuOptions.default with timerQueries := false } blankAssembly 320 240 slowWorld =
      (.ok r, w) ∧ r.timer = none := by
  unfold SurfaceRenderer.connectWith Pipeline.createWith
  rw [checkStages_blankAssembly]
  exact ⟨_, _, rfl, rfl⟩

theorem timerProtocol_of_connect_blankAssembly :
    (∃ r w t s,
      SurfaceRenderer.connectWith Glsl.check ⟨true, true⟩ .default blankAssembly 320 240 slowWorld =
          (.ok r, w) ∧
        r.timer = some t ∧
        (r.serveAll w twoMeasurements).1.timer = some { t with state := s } ∧
        (r.serveAll w twoMeasurements).2.calls =
          w.calls ++ (r.visits w twoMeasurements).flatMap Visit.calls ∧
        TimerProtocol w.mappings.length (r.visits w twoMeasurements) { t with state := s } ∧
        (r.visits w twoMeasurements).map Visit.measures = [true, false, false, false, true] ∧
        (r.visits w twoMeasurements).map Visit.isReady = [false, false, false, true, false]) ∧
      ∃ r w cs,
        SurfaceRenderer.connectWith Glsl.check ⟨true, true⟩
            { GpuOptions.default with timerQueries := false } blankAssembly 320 240 slowWorld =
          (.ok r, w) ∧
          r.timer = none ∧ (∀ c ∈ cs, c.isTiming = false) ∧
          (Renderer.release (r.serveAll w twoMeasurements).1
            (r.serveAll w twoMeasurements).2).2.calls = slowWorld.calls ++ cs := by
  constructor
  · obtain ⟨r, w, hc, htimer, hmeasures, hready⟩ := connect_blankAssembly
    obtain ⟨t, ht⟩ := Option.isSome_iff_exists.1 htimer
    obtain ⟨s, hs, hcalls, hprotocol⟩ := (timerProtocol_of_connect hc twoMeasurements).1 t ht
    exact ⟨r, w, t, s, hc, ht, hs, hcalls, hprotocol, hmeasures, hready⟩
  · obtain ⟨r, w, hc, ht⟩ := connect_blankAssembly_untimed
    obtain ⟨cs, hcs, hcalls⟩ := (timerProtocol_of_connect hc twoMeasurements).2 ht
    exact ⟨r, w, cs, hc, ht, hcs, hcalls⟩

end Gpu

end ShaderPreview
