import ShaderPreview.Proofs.Preview.Counters
import ShaderPreview.Proofs.Preview.Size

/-!
# Which size wins

Between two ticks a size can be given at once or asked for.  The next tick applies what was asked
for last, whatever was given behind it; only if that is empty, or nothing was asked for, what was
given last stays (`draws_at_sizeAfter`).
-/

namespace ShaderPreview

/-- No side of the size is zero. -/
def hasArea (size : Nat × Nat) : Bool := size.1 ≠ 0 && size.2 ≠ 0

section Sizes

variable {ρ β G : Type}

namespace Operation

/-- What can be asked of a session while it waits for a tick: no load, no tick, and not its end. -/
def isBetweenTicks : Operation ρ β G → Bool
  | load .. | tick .. | dispose => false
  | _ => true

/-- The size that the operation asks the next tick for. -/
def requested? : Operation ρ β G → Option (Nat × Nat)
  | requestSize width height => some (width, height)
  | _ => none

/-- The size that the operation gives the session at once. -/
def given? : Operation ρ β G → Option (Nat × Nat)
  | resize width height => some (width, height)
  | _ => none

end Operation

/-- The last size asked for. -/
def lastRequested? (ops : List (Operation ρ β G)) : Option (Nat × Nat) :=
  (ops.filterMap Operation.requested?).getLast?

/-- The last size given that is not empty. -/
def lastGiven? (ops : List (Operation ρ β G)) : Option (Nat × Nat) :=
  ((ops.filterMap Operation.given?).filter hasArea).getLast?

/-- The size at which a session is drawn next that had the given one before the operations. -/
def sizeAfter (ops : List (Operation ρ β G)) (size : Nat × Nat) : Nat × Nat :=
  ((lastRequested? ops).filter hasArea).getD ((lastGiven? ops).getD size)

/-- The size that a renderer was given last. -/
def lastConfigured? (entries : List (LogEntry β)) : Option (Nat × Nat) :=
  (entries.filterMap fun
    | .called _ (.configure width height _) => some (width, height)
    | _ => none).getLast?

theorem lastRequested?_concat (ops : List (Operation ρ β G)) (op : Operation ρ β G) :
    lastRequested? (ops ++ [op]) = op.requested?.or (lastRequested? ops) := by
  rw [lastRequested?, List.filterMap_append, List.getLast?_append]
  cases op <;> rfl

theorem lastGiven?_concat (ops : List (Operation ρ β G)) (op : Operation ρ β G) :
    lastGiven? (ops ++ [op]) = (op.given?.filter hasArea).or (lastGiven? ops) := by
  rw [lastGiven?, List.filterMap_append, List.filter_append, List.getLast?_append]
  cases op with
  | resize width height =>
    cases h : hasArea (width, height) <;>
      simp [Operation.given?, lastGiven?, h, Option.filter]
  | _ => rfl

theorem lastConfigured?_append (es fs : List (LogEntry β)) :
    lastConfigured? (es ++ fs) = (lastConfigured? fs).or (lastConfigured? es) := by
  rw [lastConfigured?, List.filterMap_append, List.getLast?_append]
  rfl

theorem TickCalls.lastConfigured?_drawing (c : TickCalls β) (n : Nat) :
    lastConfigured? (c.drawing.map (.called n)) = c.size := by
  unfold drawing
  rcases c.size with _ | ⟨width, height⟩ <;> rcases c.poll with _ | poll <;> rfl

end Sizes

namespace Session

variable {ρ β G : Type}

theorem Resizes.hasArea {s : Session ρ β} {width height : Nat} (hz : s.Resizes width height) :
    hasArea (width, height) := by
  simp [ShaderPreview.hasArea, hz.1, hz.2.1]

/-- A size that is not empty is applied, or it is the one that the session has. -/
theorem eq_of_not_resizes {s : Session ρ β} {width height : Nat} (hz : ¬ s.Resizes width height)
    (ha : hasArea (width, height)) : (s.width, s.height) = (width, height) := by
  simp only [hasArea, Bool.and_eq_true, decide_eq_true_eq, ne_eq] at ha
  by_contra hne
  exact hz ⟨ha.1, ha.2, hne⟩

/-- A size asked for wins, unless it is empty. -/
theorem nextSize_eq (s : Session ρ β) :
    s.nextSize = (s.requestedSize.filter hasArea).getD (s.width, s.height) := by
  unfold nextSize
  rcases hq : s.requestedSize with _ | ⟨width, height⟩
  · simp [sizeToApply, hq]
  · by_cases hz : s.Resizes width height
    · rw [sizeToApply_eq_some_iff.2 ⟨hq, hz⟩, Option.filter, if_pos hz.hasArea]
    · rw [sizeToApply_eq_none hq hz]
      by_cases ha : hasArea (width, height)
      · rw [Option.filter, if_pos ha, Option.getD_some, Option.getD_none, eq_of_not_resizes hz ha]
      · rw [Option.filter, if_neg ha]

variable [Seconds ρ] [Renderer G β] [Journal G]

omit [Renderer G β] [Journal G] in
/-- A session keeps its shader between two ticks, or has none. -/
theorem StepsTo.isLive_eq {s t : Session ρ β} {op : Operation ρ β G} (h : StepsTo s op t)
    (hop : op.isBetweenTicks) : t.phase.isLive = s.phase.isLive := by
  cases h with
  | started hr token =>
    dsimp only
    rw [hr]
    split <;> rfl
  | paused hd => exact isLive_afterPause s.phase _
  | halted ht => exact (isLive_of_isTicking ht).symm
  | loaded => cases hop
  | unloaded => cases hop
  | ticked => cases hop
  | disposed => cases hop
  | _ => rfl

omit [Renderer G β] [Journal G] in
theorem StepsTo.keepsSize {s t : Session ρ β} {op : Operation ρ β G} (h : StepsTo s op t)
    (hop : op.isBetweenTicks) (hg : op.given? = none) :
    (t.width, t.height) = (s.width, s.height) ∧
      t.requestedSize = op.requested?.or s.requestedSize := by
  cases h with
  | ignored hi =>
    cases op with
    | requestSize width height => exact hi.elim
    | _ => exact ⟨rfl, rfl⟩
  | resized => cases hg
  | loaded => cases hop
  | unloaded => cases hop
  | ticked => cases hop
  | disposed => cases hop
  | _ => exact ⟨rfl, rfl⟩

section Operations

variable {s : Session ρ (Logged β)} (h : Host (Logbook G β))

/-- An operation that gives no size makes no call between two ticks. -/
theorem quietly_between {op : Operation ρ (Logged β) (Logbook G β)} (hop : op.isBetweenTicks)
    (hg : op.given? = none) : Quietly h [] (operate s op h).2 := by
  cases op with
  | load => cases hop
  | tick => cases hop
  | dispose => cases hop
  | resize => cases hg
  | start => exact quietly_start h
  | setPaused paused time => exact quietly_setPaused h paused time
  | halt => exact quietly_halt h
  | _ => exact .refl h

/-- How the sizes stand behind some operations and their entries, on a session that had the size
`size` and nothing asked for. -/
structure Sized (ops : List (Operation ρ (Logged β) (Logbook G β))) (size : Nat × Nat)
    (es : List (LogEntry β)) (s : Session ρ (Logged β)) : Prop where
  coherent : Coherent s
  isLive : s.phase.isLive
  requested : s.requestedSize = lastRequested? ops
  given : (s.width, s.height) = (lastGiven? ops).getD size
  configured : (lastConfigured? es).getD size = (s.width, s.height)

theorem Sized.operate {ops : List (Operation ρ (Logged β) (Logbook G β))} {size : Nat × Nat}
    {es : List (LogEntry β)} (hs : Sized ops size es s)
    {op : Operation ρ (Logged β) (Logbook G β)} (hop : op.isBetweenTicks) :
    ∃ fs, (Session.operate s op h).2.graphics.entries = h.graphics.entries ++ fs ∧
      Sized (ops ++ [op]) size (es ++ fs) (Session.operate s op h).1 := by
  have hcoherent := coherent_operate h op hs.coherent
  rcases hg : op.given? with _ | given
  · have hstep := stepsTo_operate h op hs.coherent
    obtain ⟨hsize, hrequested⟩ := hstep.keepsSize hop hg
    refine ⟨[], (quietly_between h hop hg).entries, hcoherent,
      (hstep.isLive_eq hop).trans hs.isLive, ?_, ?_, ?_⟩
    · rw [hrequested, lastRequested?_concat, hs.requested]
    · rw [hsize, lastGiven?_concat, hg, hs.given]
      rfl
    · rw [hsize, List.append_nil, hs.configured]
  · cases op with
    | resize width height =>
      have hlast : lastRequested? (ops ++ [.resize width height]) = lastRequested? ops :=
        lastRequested?_concat ops _
      have hgiven := lastGiven?_concat ops (.resize width height)
      by_cases hz : s.Resizes width height
      · obtain ⟨r, hr⟩ := hs.coherent.exists_renderer hs.isLive
        obtain ⟨resized, -, hent⟩ := entered_resize_of_resizes h hs.isLive hz hr
        have hfst := congrArg Prod.fst (resize_of_resizes s h hs.isLive hz hr)
        refine ⟨_, hent.entries, hcoherent, ?_, ?_, ?_, ?_⟩ <;>
          rw [Session.operate, hfst]
        · exact hs.isLive
        · rw [hlast]
          exact hs.requested
        · rw [hgiven, Operation.given?, Option.filter, if_pos hz.hasArea]
          rfl
        · rw [lastConfigured?_append]
          rfl
      · have hsame : Session.operate s (.resize width height) h = (s, h) :=
          congrFun (resize_eq_pure s fun hc => hz hc.2.1) h
        rw [hsame]
        refine ⟨[], (List.append_nil _).symm, hs.coherent, hs.isLive, ?_, ?_, ?_⟩
        · rw [hlast, hs.requested]
        · rw [hgiven, Operation.given?, Option.filter]
          split
          · rw [Option.some_or, Option.getD_some, eq_of_not_resizes hz (by assumption)]
          · rw [Option.none_or, hs.given]
        · rw [List.append_nil, hs.configured]
    | _ => cases hg

/-- A run between two ticks. -/
theorem sized_run (hc : Coherent s) (hl : s.phase.isLive) (hq : s.requestedSize = none)
    (ops : List (Operation ρ (Logged β) (Logbook G β))) (hops : ∀ op ∈ ops, op.isBetweenTicks) :
    ∃ es, (run s ops h).2.graphics.entries = h.graphics.entries ++ es ∧
      Sized ops (s.width, s.height) es (run s ops h).1 := by
  induction ops using List.reverseRecOn with
  | nil => exact ⟨[], (List.append_nil _).symm, hc, hl, hq, rfl, rfl⟩
  | append_singleton ops op ih =>
    rw [List.forall_mem_append, List.forall_mem_singleton] at hops
    obtain ⟨es, hes, hsized⟩ := ih hops.1
    obtain ⟨fs, hfs, hsized'⟩ := hsized.operate (run s ops h).2 hops.2
    rw [run_append_apply]
    refine ⟨es ++ fs, ?_, hsized'⟩
    rw [← List.append_assoc, ← hes]
    exact hfs

theorem isLive_run (hc : Coherent s) (ops : List (Operation ρ (Logged β) (Logbook G β)))
    (hops : ∀ op ∈ ops, op.isBetweenTicks) :
    (run s ops h).1.phase.isLive = s.phase.isLive := by
  have step : ∀ op ∈ ops, ∀ (t : Session ρ (Logged β)) (h : Host (Logbook G β)),
      Coherent t ∧ t.phase.isLive = s.phase.isLive →
        Coherent (operate t op h).1 ∧ (operate t op h).1.phase.isLive = s.phase.isLive := by
    rintro op hop t h ⟨ht, hl⟩
    exact ⟨coherent_operate h op ht,
      ((stepsTo_operate h op ht).isLive_eq (hops op hop)).trans hl⟩
  exact (run_induction (P := fun t _ => Coherent t ∧ t.phase.isLive = s.phase.isLive) ops step
    ⟨hc, rfl⟩).2

end Operations

/-! ## The next tick -/

section Next

variable {s : Session ρ (Logged β)}

omit [Renderer G β] [Journal G] in
/-- A tick leaves nothing asked for. -/
theorem StepsTo.requestedSize_of_tick {s t : Session ρ β} {now : Nat} {today : Date}
    (h : StepsTo s (.tick now today : Operation ρ β G) t) (ht : s.phase.isTicking)
    (hp : s.pendingTick.isSome) : t.requestedSize = none := by
  cases h with
  | ignored hi => exact absurd ⟨ht, hp⟩ hi
  | ticked _ _ _ poll r outcome token => cases outcome <;> rfl

/-- A tick writes the uniforms and draws at the next size of its session. -/
theorem tick_nextSize (hc : Coherent s) (hs : SizeShown s) (ht : s.phase.isTicking)
    (h : Host (Logbook G β)) (now : Nat) (today : Date) :
    ((tick s now today h).1.width, (tick s now today h).1.height) = s.nextSize ∧
      ∃ (r : Logged β) (c : TickCalls β), s.renderer = some r ∧ c.size = s.sizeToApply ∧
        (tick s now today h).2.graphics.entries =
          h.graphics.entries ++ c.calls.map (.called r.number) ∧
        c.block.resolution = .ofSize s.nextSize.1 s.nextSize.2 := by
  have hp : s.pendingTick.isSome := hc.pendingTick_iff_isTicking.2 ht
  obtain ⟨r, c, used, h', hr, hu, hsize, hblock, -, -, hent, hrun⟩ :=
    entered_runTick h now today hc.toLoaded ht
  have hd : (s.drawing now today used (c.poll.map Prod.fst) ⟨r.number, c.drawn⟩).phase ≠
      .disposed := ne_disposed_of_isTicking ht
  have hentries := entries_afterDraw h' now c.outcome hd rfl rfl
  have hfst := afterDraw_fst h' now c.outcome hd rfl
  rw [tick_eq_runTick s now today ht hp, hrun]
  refine ⟨?_, r, c, hr, hsize, ?_, ?_⟩
  · rw [hfst]
    cases c.outcome <;> rfl
  · rw [hentries, hent.entries, TickCalls.calls, List.map_append, ← List.append_assoc]
    split <;> rfl
  · rw [hblock]
    exact (hs.frameBlock hu now today).2.2

/-- Between two ticks any sizes are given and asked for.  The second tick writes the uniforms and
draws at the size that was asked for last, unless that is empty; if it is, or if none was asked for,
at the last size given that is not empty; and at the size of the first tick if there is none. -/
theorem draws_at_sizeAfter {s₀ s' s'' : Session ρ (Logged β)} {h₀ h h' h'' : Host (Logbook G β)}
    {now now' : Nat} {today today' : Date} {ops : List (Operation ρ (Logged β) (Logbook G β))}
    (hs₀ : Reachable (Logbook G β) s₀) (ht₀ : s₀.phase.isTicking) (hp₀ : s₀.pendingTick.isSome)
    (hfirst : tick s₀ now today h₀ = (s, h)) (hops : ∀ op ∈ ops, op.isBetweenTicks)
    (hrun : run s ops h = (s', h')) (ht' : s'.phase.isTicking)
    (hnext : tick s' now' today' h' = (s'', h'')) :
    (s''.width, s''.height) = sizeAfter ops (s.width, s.height) ∧
      ∃ (r : Logged β) (c : TickCalls β) (es : List (LogEntry β)), s'.renderer = some r ∧
        h'.graphics.entries = h.graphics.entries ++ es ∧
        h''.graphics.entries = h'.graphics.entries ++ c.calls.map (.called r.number) ∧
        c.block.resolution = .ofSize (sizeAfter ops (s.width, s.height)).1
          (sizeAfter ops (s.width, s.height)).2 ∧
        (lastConfigured? (es ++ c.drawing.map (.called r.number))).getD (s.width, s.height) =
          sizeAfter ops (s.width, s.height) := by
  have hstep : (operate s₀ (.tick now today) h₀).1 = s := congrArg Prod.fst hfirst
  have hc : Coherent s := hstep ▸ coherent_operate h₀ (.tick now today) hs₀.coherent
  have hs : SizeShown s := hstep ▸ sizeShown_operate h₀ (.tick now today) hs₀.coherent hs₀.sizeShown
  have hq : s.requestedSize = none :=
    hstep ▸ (stepsTo_operate h₀ (.tick now today) hs₀.coherent).requestedSize_of_tick ht₀ hp₀
  have hs' : (run s ops h).1 = s' := congrArg Prod.fst hrun
  have hl : s.phase.isLive := by
    rw [← isLive_run h hc ops hops, hs']
    exact isLive_of_isTicking ht'
  obtain ⟨es, hes, hsized⟩ := sized_run h hc hl hq ops hops
  rw [hrun] at hes hsized
  obtain ⟨hsize, r, c, hr, happlied, hentries, hblock⟩ := tick_nextSize hsized.coherent
    (hs' ▸ sizeShown_run h ops hc hs) ht' h' now' today'
  rw [hnext] at hsize hentries
  have hnextSize : s'.nextSize = sizeAfter ops (s.width, s.height) := by
    rw [nextSize_eq, hsized.requested, hsized.given, sizeAfter]
  rw [hnextSize] at hsize hblock
  refine ⟨hsize, r, c, es, hr, hes, hentries, hblock, ?_⟩
  rw [lastConfigured?_append, TickCalls.lastConfigured?_drawing, happlied, ← hnextSize, nextSize]
  rcases s'.sizeToApply with _ | size
  · exact hsized.configured
  · rfl

/-- A shader is loaded and started; its first tick is waited for. -/
def waitingPreview : List (Operation Float (Logged ScriptedRenderer) (Logbook Recording ScriptedRenderer)) :=
  [.load blankShader 320 240 (Logbook.connect (ScriptedRenderer.connect (.ok steadyRenderer))),
    .start]

/-- A size is asked for, and another one given behind it. -/
def givenBehindRequest :
    List (Operation Float (Logged ScriptedRenderer) (Logbook Recording ScriptedRenderer)) :=
  [.requestSize 640 480, .resize 800 600]

/-- A size is asked for, and an empty one behind it. -/
def emptyBehindRequest :
    List (Operation Float (Logged ScriptedRenderer) (Logbook Recording ScriptedRenderer)) :=
  [.requestSize 640 480, .requestSize 0 0]

/-- The preview behind its first tick and some operations. -/
def betweenTicks
    (ops : List (Operation Float (Logged ScriptedRenderer) (Logbook Recording ScriptedRenderer))) :
    Session Float (Logged ScriptedRenderer) × Host (Logbook Recording ScriptedRenderer) :=
  run freshSession (waitingPreview ++ .tick 0 .zero :: ops) blankHost

/-- The preview behind its second tick. -/
def secondTick
    (ops : List (Operation Float (Logged ScriptedRenderer) (Logbook Recording ScriptedRenderer))) :
    Session Float (Logged ScriptedRenderer) × Host (Logbook Recording ScriptedRenderer) :=
  tick (betweenTicks ops).1 16000000 .zero (betweenTicks ops).2

theorem draws_at_sizeAfter_givenBehindRequest :
    ((secondTick givenBehindRequest).1.width, (secondTick givenBehindRequest).1.height) =
        (640, 480) ∧
      ∃ (r : Logged ScriptedRenderer) (c : TickCalls ScriptedRenderer),
        (secondTick givenBehindRequest).2.graphics.entries =
          (betweenTicks givenBehindRequest).2.graphics.entries ++
            c.calls.map (.called r.number) ∧
        c.block.resolution = .ofSize 640 480 := by
  have hs₀ : Reachable (Logbook Recording ScriptedRenderer)
      (run freshSession waitingPreview blankHost).1 := ⟨_, _, _, _, create?_default, rfl⟩
  have hwaited : (run freshSession waitingPreview blankHost).1.phase.isTicking ∧
      (run freshSession waitingPreview blankHost).1.pendingTick.isSome ∧
      (betweenTicks givenBehindRequest).1.phase.isTicking := by decide +kernel
  unfold secondTick
  unfold betweenTicks at hwaited ⊢
  rw [run_append_apply] at hwaited ⊢
  -- from here on the runs are not to be evaluated
  generalize run freshSession waitingPreview blankHost = p₀ at hs₀ hwaited
  obtain ⟨hticking, hpending, hticking'⟩ := hwaited
  rw [run_cons_apply] at hticking' ⊢
  rcases hfirst : operate p₀.1 (.tick 0 .zero) p₀.2 with ⟨s₁, h₁⟩
  rw [hfirst] at hticking'
  rcases hrun : run s₁ givenBehindRequest h₁ with ⟨s, h⟩
  rw [hrun] at hticking'
  rcases hnext : tick s 16000000 .zero h with ⟨s'', h''⟩
  obtain ⟨hsize, r, c, es, -, -, hentries, hblock, -⟩ :=
    draws_at_sizeAfter hs₀ hticking hpending hfirst (by decide) hrun hticking' hnext
  exact ⟨hsize, r, c, hentries, hblock⟩

/-- The last size, given or asked for, that is not empty. -/
def latestSize? (ops : List (Operation ρ β G)) : Option (Nat × Nat) :=
  ((ops.filterMap fun op => op.given?.or op.requested?).filter hasArea).getLast?

/-- A size that is given behind a request does not win over it, and an empty request takes back the
one before. -/
theorem not_draws_at_latestSize :
    (givenBehindRequest.all Operation.isBetweenTicks ∧
        (betweenTicks givenBehindRequest).1.phase.isTicking ∧
        (betweenTicks givenBehindRequest).1.pendingTick.isSome ∧
        latestSize? givenBehindRequest = some (800, 600) ∧
        lastConfigured? (secondTick givenBehindRequest).2.graphics.entries = some (640, 480)) ∧
      emptyBehindRequest.all Operation.isBetweenTicks ∧
        (betweenTicks emptyBehindRequest).1.phase.isTicking ∧
        (betweenTicks emptyBehindRequest).1.pendingTick.isSome ∧
        latestSize? emptyBehindRequest = some (640, 480) ∧
        ((secondTick emptyBehindRequest).1.width, (secondTick emptyBehindRequest).1.height) =
          (320, 240) := by
  decide +kernel

end Next

end Session

end ShaderPreview
